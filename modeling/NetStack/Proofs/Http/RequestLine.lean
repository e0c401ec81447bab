/-
Module: NetStack.Proofs.Http.RequestLine
Purpose: Every token that the responder comes upon lies inside the request.
Main exports:
  Http.Token.Of, Http.Token.Of.slice_eq_ok
-/
import NetStack.Http.RequestLine

namespace NetStack.Http

/-- The tokens of a request: the first one, and whatever follows the delimiter of
another. -/
inductive Token.Of (request : Bytes) : Token → Prop where
  | first : Token.Of request (Token.first 0 request)
  | next {token : Token} {offset : Nat} {text : Bytes} (earlier : Token.Of request token)
      (left : token.rest? = some (offset, text)) : Token.Of request (Token.first offset text)

theorem length_trimReturn_le (piece : Bytes) : (trimReturn piece).length ≤ piece.length := by
  unfold trimReturn
  split
  · rw [List.length_dropLast]
    exact Nat.sub_le _ _
  · exact Nat.le_refl _

namespace Token

variable {request : Bytes} {offset : Nat}

/-- The first token of what is left of a request lies inside the request. -/
theorem span_first_le (inside : offset ≤ request.length) :
    (first offset (request.drop offset)).span.offset +
      (first offset (request.drop offset)).span.length ≤ request.length := by
  let piece := (request.drop offset).takeWhile fun byte => !isDelimiter byte
  have cut : piece.length ≤ (request.drop offset).length :=
    (List.takeWhile_prefix _).length_le
  have trimmed : (trimReturn piece).length ≤ piece.length := length_trimReturn_le piece
  rw [List.length_drop] at cut
  show offset + (trimReturn piece).length ≤ request.length
  omega

/-- What follows its delimiter is the rest of the request. -/
theorem rest_first {later : Nat} {text : Bytes}
    (left : (first offset (request.drop offset)).rest? = some (later, text)) :
    later ≤ request.length ∧ text = request.drop later := by
  let piece := (request.drop offset).takeWhile fun byte => !isDelimiter byte
  dsimp only [first] at left
  rw [List.drop_drop] at left
  split at left
  · cases left
  · next delimiter rest behind =>
    have behind : request.drop (offset + piece.length) = delimiter :: rest := behind
    cases left
    have goesOn : offset + piece.length < request.length := by
      have nonempty := congrArg List.length behind
      rw [List.length_drop, List.length_cons] at nonempty
      omega
    refine ⟨goesOn, ?_⟩
    rw [List.drop_add_one_eq_tail_drop, behind]
    rfl

/-- A token is the first one of what is left from some place on. -/
theorem Of.exists_first {token : Token} (among : Token.Of request token) :
    ∃ offset, offset ≤ request.length ∧ token = Token.first offset (request.drop offset) := by
  induction among with
  | first => exact ⟨0, Nat.zero_le _, rfl⟩
  | next earlier left inductiveHypothesis =>
      obtain ⟨place, -, rfl⟩ := inductiveHypothesis
      obtain ⟨onward, rfl⟩ := rest_first left
      exact ⟨_, onward, rfl⟩

/-- Every token can be cut out of the request. -/
theorem Of.slice_eq_ok {token : Token} (among : Token.Of request token) :
    Bytes.slice request token.span.offset (token.span.offset + token.span.length) =
      .ok (token.span.of request) := by
  obtain ⟨offset, inside, rfl⟩ := among.exists_first
  rw [Bytes.slice_eq_ok (Nat.le_add_right _ _) (span_first_le inside), Span.of, List.drop_take,
    Nat.add_sub_cancel_left]

end Token

end NetStack.Http
