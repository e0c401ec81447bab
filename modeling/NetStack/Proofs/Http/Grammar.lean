/-
Module: NetStack.Proofs.Http.Grammar
Purpose: Which requests have a request line, told by cutting the whole request at
  its delimiters.
Main exports:
  Http.pieces, Http.stripped, Http.pieceStart, Http.RequestLine.judge,
  Http.RequestLine.parse_eq_judge, Http.RequestLine.parse_accepts_grammar
-/
import Mathlib.Algebra.GroupWithZero.Nat
import NetStack.Proofs.Http.RequestLine

namespace NetStack.Http

/-!
The reader takes one token after the other off a request, and stops as soon as it
knows enough.  Here the request is cut at all its delimiters at once, and the verdict
is read off the pieces.  Both ways agree because a token is always the first piece of
what is left of the request.
-/

/-- The pieces of a request between its spaces and newlines.  The last one ends with
the request, and any of them may be empty. -/
def pieces (request : Bytes) : List Bytes :=
  request.splitOnP fun byte => byte == 0x20 || byte == 0x0A

/-- A piece without one carriage return at its end, if it has any. -/
def stripped (piece : Bytes) : Bytes :=
  if [0x0D] <:+ piece then piece.dropLast else piece

/-- Where a piece starts: behind all earlier ones, each of them with its delimiter. -/
def pieceStart (request : Bytes) (number : Nat) : Nat :=
  (((pieces request).take number).map fun piece => piece.length + 1).sum

theorem trimReturn_eq_stripped (piece : Bytes) : trimReturn piece = stripped piece := by
  simp [trimReturn, stripped, List.singleton_suffix_iff_getLast?_eq_some]

theorem isPrefix_stripped (piece : Bytes) : stripped piece <+: piece := by
  unfold stripped
  split
  · exact List.dropLast_prefix piece
  · exact List.prefix_rfl

/-! ## One piece after the other -/

/-- The first piece ends at the first delimiter, or with the request. -/
theorem pieces_cases (text : Bytes) :
    let piece := text.takeWhile fun byte => !isDelimiter byte
    (text = piece ∧ pieces text = [piece]) ∨
      ∃ delimiter later, text = piece ++ delimiter :: later ∧
        pieces text = piece :: pieces later := by
  intro piece
  have split : pieces text = text.splitOnP isDelimiter := rfl
  have whole : piece ++ text.dropWhile (fun byte => !isDelimiter byte) = text :=
    List.takeWhile_append_dropWhile
  have plain : ∀ byte ∈ piece, isDelimiter byte = false := by
    intro byte member
    have kept := List.all_eq_true.mp List.all_takeWhile byte member
    simpa using kept
  cases behind : text.dropWhile fun byte => !isDelimiter byte with
  | nil =>
      left
      rw [behind, List.append_nil] at whole
      refine ⟨whole.symm, ?_⟩
      rw [split, ← whole]
      exact List.splitOnP_eq_singleton plain
  | cons delimiter later =>
      right
      have ends : isDelimiter delimiter = true := by
        have head := List.head?_dropWhile_not (fun byte => !isDelimiter byte) text
        simpa [behind] using head
      rw [behind] at whole
      refine ⟨delimiter, later, whole.symm, ?_⟩
      rw [split, ← whole]
      exact List.splitOnP_append_cons_of_forall_mem plain delimiter ends later

/-- Every piece lies where it is said to start. -/
theorem piece_lies {request piece : Bytes} {number : Nat}
    (found : (pieces request)[number]? = some piece) :
    pieceStart request number ≤ request.length ∧
      piece <+: request.drop (pieceStart request number) := by
  induction number generalizing request with
  | zero =>
      refine ⟨Nat.zero_le _, ?_⟩
      rcases pieces_cases request with ⟨-, single⟩ | ⟨delimiter, later, -, more⟩
      · obtain rfl : _ = piece := by simpa [single] using found
        exact List.takeWhile_prefix _
      · obtain rfl : _ = piece := by simpa [more] using found
        exact List.takeWhile_prefix _
  | succ number inductiveHypothesis =>
      rcases pieces_cases request with ⟨-, single⟩ | ⟨delimiter, later, whole, more⟩
      · simp [single] at found
      · generalize request.takeWhile (fun byte => !isDelimiter byte) = first at whole more
        have onward : (pieces later)[number]? = some piece := by simpa [more] using found
        obtain ⟨inside, lies⟩ := inductiveHypothesis onward
        have start : pieceStart request (number + 1) =
            (first.length + 1) + pieceStart later number := by
          simp [pieceStart, more]
        have rest : request.drop (first.length + 1) = later := by
          simp [whole]
        have length : request.length = first.length + 1 + later.length := by
          simp [whole]
          omega
        rw [start, ← List.drop_drop, rest]
        exact ⟨by omega, lies⟩

/-- A token is the first piece of a text, stripped, and behind its delimiter are the
others. -/
theorem Token.first_cases (offset : Nat) (text : Bytes) :
    ∃ piece, (Token.first offset text).bytes = stripped piece ∧
      (Token.first offset text).span = ⟨offset, (stripped piece).length⟩ ∧
      ((pieces text = [piece] ∧ (Token.first offset text).rest? = none) ∨
        ∃ later, pieces text = piece :: pieces later ∧
          (Token.first offset text).rest? = some (offset + (piece.length + 1), later)) := by
  have cases := pieces_cases text
  generalize cut : text.takeWhile (fun byte => !isDelimiter byte) = piece at cases
  have bytes : (Token.first offset text).bytes = stripped piece := by
    rw [← trimReturn_eq_stripped, ← cut]
    rfl
  refine ⟨piece, bytes, ?_, ?_⟩
  · rw [← bytes]
    rfl
  · rcases cases with ⟨whole, single⟩ | ⟨delimiter, later, whole, more⟩
    · left
      have behind : text.drop piece.length = [] := by simp [whole]
      simp [single, Token.first, cut, behind]
    · right
      have behind : text.drop piece.length = delimiter :: later := by simp [whole]
      refine ⟨later, more, ?_⟩
      simp [Token.first, cut, behind, Nat.add_assoc]

/-! ## The verdict -/

namespace RequestLine

/-- The verdict on a request line, told by its pieces. -/
def judge : List Bytes → Except Refusal RequestLine
  | [] => .error .incomplete
  | [method] =>
      if stripped method ≠ Http.method then .error .unknownMethod else .error .incomplete
  | [method, _] =>
      if stripped method ≠ Http.method then .error .unknownMethod else .error .incomplete
  | method :: uri :: version :: _ =>
      if stripped method ≠ Http.method then
        .error .unknownMethod
      else if stripped version = Bytes.ascii Http.version ∨
          stripped version = Bytes.ascii olderVersion then
        .ok {
          method := ⟨0, (stripped method).length⟩
          uri := ⟨method.length + 1, (stripped uri).length⟩
          version := ⟨method.length + 1 + (uri.length + 1), (stripped version).length⟩ }
      else
        .error .unknownVersion

theorem parse_eq_judge (request : Bytes) : parse request = judge (pieces request) := by
  unfold parse
  obtain ⟨method, asked, methodSpan, ⟨cut, left⟩ | ⟨text, cut, left⟩⟩ :=
    Token.first_cases 0 request
  · simp only [asked, left, cut, judge]
  · rw [Nat.zero_add] at left
    obtain ⟨uri, -, uriSpan, ⟨cutAgain, leftAgain⟩ | ⟨rest, cutAgain, leftAgain⟩⟩ :=
      Token.first_cases (method.length + 1) text
    · simp only [asked, left, leftAgain, cut, cutAgain, judge]
    · obtain ⟨version, spoken, versionSpan, others⟩ :=
        Token.first_cases (method.length + 1 + (uri.length + 1)) rest
      obtain ⟨more, cutLast⟩ : ∃ more, pieces rest = version :: more := by
        rcases others with ⟨single, -⟩ | ⟨later, onward, -⟩
        · exact ⟨[], single⟩
        · exact ⟨_, onward⟩
      simp only [asked, left, leftAgain, spoken, methodSpan, uriSpan, versionSpan, cut, cutAgain,
        cutLast, judge]

/-- The method and the version decide, if there are three pieces, and otherwise the
line is not complete. -/
theorem judge_cases (cut : List Bytes) :
    (∃ method uri version others, cut = method :: uri :: version :: others ∧
      stripped method = Http.method ∧
      (((stripped version = Bytes.ascii Http.version ∨
            stripped version = Bytes.ascii olderVersion) ∧
          judge cut = .ok {
            method := ⟨0, (stripped method).length⟩
            uri := ⟨method.length + 1, (stripped uri).length⟩
            version :=
              ⟨method.length + 1 + (uri.length + 1), (stripped version).length⟩ }) ∨
        (¬(stripped version = Bytes.ascii Http.version ∨
            stripped version = Bytes.ascii olderVersion) ∧
          judge cut = .error .unknownVersion))) ∨
      ((cut.length < 3 ∨ (cut.map stripped)[0]? ≠ some Http.method) ∧
        (judge cut = .error .unknownMethod ∨ judge cut = .error .incomplete)) := by
  match cut with
  | [] => exact .inr ⟨.inl (by decide), .inr rfl⟩
  | [method] =>
      refine .inr ⟨.inl (by simp), ?_⟩
      simp only [judge]
      split <;> simp
  | [method, uri] =>
      refine .inr ⟨.inl (by simp), ?_⟩
      simp only [judge]
      split <;> simp
  | method :: uri :: version :: others =>
      by_cases asks : stripped method = Http.method
      · refine .inl ⟨method, uri, version, others, rfl, asks, ?_⟩
        by_cases speaks : stripped version = Bytes.ascii Http.version ∨
            stripped version = Bytes.ascii olderVersion
        · exact .inl ⟨speaks, by simp [judge, asks, speaks]⟩
        · exact .inr ⟨speaks, by simp [judge, asks, speaks]⟩
      · right
        simp [judge, asks]

/-- A stripped piece is what a span over it denotes. -/
theorem span_of_piece {request piece : Bytes} {number : Nat}
    (found : (pieces request)[number]? = some piece) :
    let span : Span := ⟨pieceStart request number, (stripped piece).length⟩
    span.offset + span.length ≤ request.length ∧ span.of request = stripped piece := by
  intro span
  obtain ⟨inside, lies⟩ := piece_lies found
  have shorter : stripped piece <+: request.drop (pieceStart request number) :=
    (isPrefix_stripped piece).trans lies
  constructor
  · have length := shorter.length_le
    rw [List.length_drop] at length
    show pieceStart request number + (stripped piece).length ≤ request.length
    omega
  · exact (List.prefix_iff_eq_take.mp shorter).symm

/-- A request line is read off exactly the requests that have one.  Cut a request at
its spaces and newlines, and take one carriage return off the end of each piece.  The
line is accepted if there are at least three pieces, the first is the method and the
third a known version; then its spans start where the first three pieces start, lie
inside the request and denote these pieces.  With another third piece, empty or not,
the refusal has the status 505, and in all other cases 400. -/
theorem parse_accepts_grammar (request : Bytes) :
    let tokens := (pieces request).map stripped
    let asks := 3 ≤ tokens.length ∧ tokens[0]? = some (Bytes.ascii "GET")
    let speaks := tokens[2]? = some (Bytes.ascii "HTTP/1.1") ∨
      tokens[2]? = some (Bytes.ascii "HTTP/1.0")
    ((∃ line, parse request = .ok line) ↔ asks ∧ speaks) ∧
      (∀ line, parse request = .ok line →
        ∀ (number : Nat) (span : Span),
          [line.method, line.uri, line.version][number]? = some span →
            span.offset = pieceStart request number ∧
              span.offset + span.length ≤ request.length ∧
              tokens[number]? = some (span.of request)) ∧
      ((∃ refusal, parse request = .error refusal ∧ refusal.status = 505) ↔
        asks ∧ ¬speaks) ∧
      ((∃ refusal, parse request = .error refusal ∧ refusal.status = 400) ↔ ¬asks) := by
  intro tokens asks speaks
  rw [parse_eq_judge]
  rcases judge_cases (pieces request) with
    ⟨method, uri, version, others, cut, get, verdict⟩ | ⟨short, verdict⟩
  · have asked : asks := by
      constructor
      · simp [tokens, cut]
      · simp [tokens, cut, get, Http.method]
    have third : speaks ↔ stripped version = Bytes.ascii Http.version ∨
        stripped version = Bytes.ascii olderVersion := by
      simp [speaks, tokens, cut, Http.version, olderVersion]
    rcases verdict with ⟨known, taken⟩ | ⟨unknown, refused⟩
    · have spoken := third.mpr known
      refine ⟨by simp [taken, asked, spoken], ?_, by simp [taken, spoken], by simp [taken, asked]⟩
      intro line reads number span among
      rw [taken] at reads
      cases reads
      obtain ⟨piece, found, placed⟩ : ∃ piece, (pieces request)[number]? = some piece ∧
          span = ⟨pieceStart request number, (stripped piece).length⟩ := by
        match number with
        | 0 => exact ⟨method, by simp [cut], by simpa [pieceStart] using among.symm⟩
        | 1 => exact ⟨uri, by simp [cut], by simpa [pieceStart, cut] using among.symm⟩
        | 2 => exact ⟨version, by simp [cut], by simpa [pieceStart, cut] using among.symm⟩
        | number + 3 => simp at among
      obtain ⟨inside, denotes⟩ := span_of_piece found
      subst placed
      refine ⟨rfl, inside, ?_⟩
      simp [tokens, found, denotes]
    · have unspoken : ¬speaks := fun spoken => unknown (third.mp spoken)
      simp [refused, asked, unspoken, Refusal.status]
  · have unasked : ¬asks := by
      rintro ⟨three, first⟩
      rcases short with few | other
      · simp only [tokens, List.length_map] at three
        omega
      · exact other first
    rcases verdict with refused | refused <;> simp [refused, unasked, Refusal.status]

/-- A carriage return in front of a newline belongs to no token, and one piece may be
empty. -/
example : parse (Bytes.ascii "GET  HTTP/1.1\r\n") = .ok ⟨⟨0, 3⟩, ⟨4, 0⟩, ⟨5, 8⟩⟩ := rfl

end RequestLine

end NetStack.Http
