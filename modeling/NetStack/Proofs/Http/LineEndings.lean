/-
Module: NetStack.Proofs.Http.LineEndings
Purpose: What the answer to a request does not depend on: how its lines end, and what
  follows its request line.
Main exports:
  Http.tokens, Http.withReturns, Http.tokens_withReturns, Http.take_pieces_append,
  Http.RequestLine.refusal?, Http.RequestLine.reason?_judge, Http.RequestLine.Agree,
  Http.RequestLine.agree_of_tokens, Http.RequestLine.parse_append,
  Http.RequestLine.endings_and_trailers_are_ignored
-/
import NetStack.Proofs.Http.Grammar
import NetStack.Proofs.Http.Response

namespace NetStack.Http

/-!
The verdict on a request is a matter of its first three tokens.  A carriage return in
front of a newline stands at the end of a piece and in no token, so lines may end in
either way.  And bytes behind the third delimiter stand in none of these pieces.
-/

/-- The pieces of a request, each without the carriage return of its line ending. -/
def tokens (request : Bytes) : List Bytes :=
  (pieces request).map stripped

/-- Every newline becomes a carriage return and a newline. -/
def withReturns (request : Bytes) : Bytes :=
  request.flatMap fun byte => if byte = 0x0A then [0x0D, 0x0A] else [byte]

/-! ## Byte by byte -/

theorem pieces_cons (byte : UInt8) (rest : Bytes) :
    pieces (byte :: rest) =
      if isDelimiter byte then [] :: pieces rest
      else (pieces rest).modifyHead (byte :: ·) :=
  List.splitOnP_cons_eq_if_modifyHead byte rest

/-- A byte in front of a piece is in the way of no carriage return behind it. -/
theorem stripped_cons {byte : UInt8} (plain : byte ≠ 0x0D) (piece : Bytes) :
    stripped (byte :: piece) = byte :: stripped piece := by
  unfold stripped
  by_cases ended : [0x0D] <:+ piece
  · have nonempty : piece ≠ [] := by
      rintro rfl
      simp at ended
    rw [if_pos ended, if_pos (ended.trans (List.suffix_cons byte piece)),
      List.dropLast_cons_of_ne_nil nonempty]
  · have unended : ¬[0x0D] <:+ byte :: piece := by
      intro ends
      rcases List.suffix_cons_iff.mp ends with whole | behind
      · simp_all
      · exact ended behind
    rw [if_neg ended, if_neg unended]

theorem tokens_cons {byte : UInt8} (plain : byte ≠ 0x0D) (rest : Bytes) :
    tokens (byte :: rest) =
      if isDelimiter byte then [] :: tokens rest
      else (tokens rest).modifyHead (byte :: ·) := by
  rw [tokens, tokens, pieces_cons]
  split
  · rfl
  · cases pieces rest with
    | nil => rfl
    | cons piece others => simp [stripped_cons plain]

/-- A carriage return that a newline follows is in no token. -/
theorem tokens_return (rest : Bytes) : tokens (0x0D :: 0x0A :: rest) = [] :: tokens rest := by
  rw [tokens, pieces_cons, pieces_cons]
  rfl

/-- The tokens stay the same, however the lines end. -/
theorem tokens_withReturns {request : Bytes} (plain : 0x0D ∉ request) :
    tokens (withReturns request) = tokens request := by
  induction request with
  | nil => rfl
  | cons byte rest inductiveHypothesis =>
      rw [List.mem_cons, not_or] at plain
      obtain ⟨other, plainRest⟩ := plain
      have onward := inductiveHypothesis plainRest
      by_cases newline : byte = 0x0A
      · subst newline
        have ends : withReturns (0x0A :: rest) = 0x0D :: 0x0A :: withReturns rest := rfl
        rw [ends, tokens_return, onward, tokens_cons (by decide)]
        rfl
      · have goesOn : withReturns (byte :: rest) = byte :: withReturns rest := by
          simp [withReturns, newline]
        rw [goesOn, tokens_cons (Ne.symm other), tokens_cons (Ne.symm other), onward]

/-- The first pieces are told by what stands in front of as many delimiters. -/
theorem take_pieces_append (request suffix : Bytes) {count : Nat}
    (enough : count ≤ request.countP isDelimiter) :
    (pieces (request ++ suffix)).take count = (pieces request).take count := by
  induction request generalizing count with
  | nil =>
      obtain rfl : count = 0 := by simpa using enough
      rfl
  | cons byte rest inductiveHypothesis =>
      rw [List.cons_append, pieces_cons, pieces_cons]
      by_cases ends : isDelimiter byte = true
      · rw [if_pos ends, if_pos ends]
        rw [List.countP_cons_of_pos ends] at enough
        cases count with
        | zero => rfl
        | succ count =>
            rw [List.take_succ_cons, List.take_succ_cons,
              inductiveHypothesis (Nat.le_of_succ_le_succ enough)]
      · rw [List.countP_cons_of_neg ends] at enough
        rw [if_neg ends, if_neg ends, List.take_modifyHead, List.take_modifyHead,
          inductiveHypothesis enough]

namespace RequestLine

/-! ## The verdict on tokens -/

/-- Why a line is refused, if it is, told by its tokens. -/
def refusal? : List Bytes → Option Refusal
  | method :: _ :: version :: _ =>
      if method ≠ Http.method then some .unknownMethod
      else if version = Bytes.ascii Http.version ∨ version = Bytes.ascii olderVersion then none
      else some .unknownVersion
  | method :: _ => if method ≠ Http.method then some .unknownMethod else some .incomplete
  | [] => some .incomplete

/-- Why a verdict is a refusal, if it is. -/
def reason? : Except Refusal RequestLine → Option Refusal
  | .ok _ => none
  | .error refusal => some refusal

theorem reason?_judge (cut : List Bytes) : reason? (judge cut) = refusal? (cut.map stripped) := by
  match cut with
  | [] => rfl
  | [method] =>
      by_cases asks : stripped method = Http.method
      · simp [judge, refusal?, reason?, asks]
      · simp [judge, refusal?, reason?, asks]
  | [method, uri] =>
      by_cases asks : stripped method = Http.method
      · simp [judge, refusal?, reason?, asks]
      · simp [judge, refusal?, reason?, asks]
  | method :: uri :: version :: others =>
      by_cases asks : stripped method = Http.method
      · by_cases speaks : stripped version = Bytes.ascii Http.version ∨
            stripped version = Bytes.ascii olderVersion
        · simp [judge, refusal?, reason?, asks, speaks]
        · simp [judge, refusal?, reason?, asks, speaks]
      · simp [judge, refusal?, reason?, asks]

/-- The spans of a line denote the first three tokens. -/
theorem take_tokens_of_parse {request : Bytes} {line : RequestLine}
    (reads : parse request = .ok line) :
    (tokens request).take 3 =
      [line.method.of request, line.uri.of request, line.version.of request] := by
  rw [parse_eq_judge] at reads
  rcases judge_cases (pieces request) with
    ⟨method, uri, version, others, cut, -, ⟨-, taken⟩ | ⟨-, refused⟩⟩ | ⟨-, refused | refused⟩
  · rw [taken] at reads
    cases reads
    have second : pieceStart request 1 = method.length + 1 := by simp [pieceStart, cut]
    have third : pieceStart request 2 = method.length + 1 + (uri.length + 1) := by
      simp [pieceStart, cut]
    have denotes {number : Nat} {piece : Bytes} (found : (pieces request)[number]? = some piece) :
        Span.of ⟨pieceStart request number, (stripped piece).length⟩ request = stripped piece :=
      (span_of_piece found).2
    have methodLies : (pieces request)[0]? = some method := by rw [cut]; rfl
    have uriLies : (pieces request)[1]? = some uri := by rw [cut]; rfl
    have versionLies : (pieces request)[2]? = some version := by rw [cut]; rfl
    have methodDenotes : Span.of ⟨0, (stripped method).length⟩ request = stripped method :=
      denotes methodLies
    rw [methodDenotes, ← second, denotes uriLies, second, ← third, denotes versionLies, tokens, cut]
    rfl
  · rw [refused] at reads
    cases reads
  · rw [refused] at reads
    cases reads
  · rw [refused] at reads
    cases reads

/-! ## How lines end -/

/-- Two requests get the same verdict: they are refused for one reason, or are read as lines
whose spans denote the same bytes. -/
inductive Agree (one other : Bytes) :
    Except Refusal RequestLine → Except Refusal RequestLine → Prop where
  | refused (refusal : Refusal) : Agree one other (.error refusal) (.error refusal)
  | accepted {line another : RequestLine} (method : another.method.of other = line.method.of one)
      (uri : another.uri.of other = line.uri.of one)
      (version : another.version.of other = line.version.of one) :
      Agree one other (.ok line) (.ok another)

/-- They do if they have the same tokens. -/
theorem agree_of_tokens {one other : Bytes} (same : tokens other = tokens one) :
    Agree one other (parse one) (parse other) := by
  have reasons : reason? (parse other) = reason? (parse one) := by
    rw [parse_eq_judge, parse_eq_judge, reason?_judge, reason?_judge]
    exact congrArg refusal? same
  cases reads : parse one with
  | error refusal =>
      cases readsOther : parse other with
      | error another =>
          rw [reads, readsOther] at reasons
          cases reasons
          exact .refused refusal
      | ok line =>
          rw [reads, readsOther] at reasons
          cases reasons
  | ok line =>
      cases readsOther : parse other with
      | error refusal =>
          rw [reads, readsOther] at reasons
          cases reasons
      | ok another =>
          have denotes := take_tokens_of_parse readsOther
          rw [same, take_tokens_of_parse reads] at denotes
          simp only [List.cons.injEq] at denotes
          obtain ⟨method, uri, version, -⟩ := denotes
          exact .accepted method.symm uri.symm version.symm

/-- Then they are due the same. -/
theorem Agree.due_eq {one other : Bytes} (agree : Agree one other (parse one) (parse other)) :
    due other = due one := by
  unfold due
  generalize parse one = verdict, parse other = another at agree
  cases agree with
  | refused refusal => rfl
  | accepted method uri version => rfl

/-! ## What follows the line -/

/-- The verdict does not look at more than three pieces. -/
theorem judge_take (cut : List Bytes) : judge (cut.take 3) = judge cut := by
  match cut with
  | [] => rfl
  | [_] => rfl
  | [_, _] => rfl
  | _ :: _ :: _ :: _ => rfl

/-- Nothing that follows three delimiters changes the verdict. -/
theorem parse_append {request : Bytes} (enough : 3 ≤ request.countP isDelimiter)
    (suffix : Bytes) : parse (request ++ suffix) = parse request := by
  rw [parse_eq_judge, parse_eq_judge, ← judge_take, take_pieces_append request suffix enough,
    judge_take]

/-- How lines end, and what follows the request line, does not matter.  A request without
carriage returns, and the same with one in front of each newline, get the same verdict.
And behind three spaces or newlines any bytes may follow: the verdict stays, spans
included.  In both cases the same answer is written into every buffer. -/
theorem endings_and_trailers_are_ignored :
    (∀ request : Bytes, 0x0D ∉ request →
      let ended := withReturns request
      Agree request ended (parse request) (parse ended) ∧
        ∀ out, (respond ended out).length = (respond request out).length ∧
          (respond ended out).buffer = (respond request out).buffer) ∧
    ∀ request suffix : Bytes, 3 ≤ request.countP (fun byte => byte == 0x20 || byte == 0x0A) →
      parse (request ++ suffix) = parse request ∧
        ∀ out, (respond (request ++ suffix) out).length = (respond request out).length ∧
          (respond (request ++ suffix) out).buffer = (respond request out).buffer := by
  constructor
  · intro request plain ended
    have agree : Agree request ended (parse request) (parse ended) :=
      agree_of_tokens (tokens_withReturns plain)
    exact ⟨agree, respond_congr agree.due_eq⟩
  · intro request suffix enough
    have same : parse (request ++ suffix) = parse request := parse_append enough suffix
    have due : due (request ++ suffix) = due request := by rw [due, due, same]
    exact ⟨same, respond_congr due⟩

/-- The headers behind a request line are not looked at. -/
theorem endings_and_trailers_are_ignored_for_get :
    let request := Bytes.ascii "GET / HTTP/1.1\n"
    let ended := Bytes.ascii "GET / HTTP/1.1\r\n"
    Agree request ended (parse request) (parse ended) ∧
      parse (request ++ Bytes.ascii "Host: 10.0.2.15\n\n") = parse request := by
  intro request ended
  obtain ⟨endings, trailers⟩ := endings_and_trailers_are_ignored
  have same : withReturns request = ended := by decide
  obtain ⟨agree, -⟩ := endings request (by decide)
  rw [same] at agree
  exact ⟨agree, (trailers request _ (by decide)).1⟩

end RequestLine

end NetStack.Http
