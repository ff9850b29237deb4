import CaptureDesk.Str

/-!
# Control sequences

A control sequence tells a terminal to change its colours or to move its cursor.  It is an escape
character, an opening square bracket, parameters and one letter.  A text that is not printed on a
terminal is printed without the sequences in it.  Each text is gone through once: what comes to
stand side by side when a sequence is dropped is no sequence.
-/

namespace CaptureDesk.Text.ControlSequence

/-- Whether a code point can stand in the parameters of a sequence. -/
def isParameter : CodePoint → Bool
  | .char c => c.isDigit || c == ';' || c == '?'
  | .surrogate _ => false

/-- Whether a code point can end a sequence. -/
def isFinal : CodePoint → Bool
  | .char c => c.isAlpha
  | .surrogate _ => false

/-- What follows the sequence that a text begins with. -/
def after? : List CodePoint → Option (List CodePoint)
  | '\x1b' :: '[' :: rest =>
      match rest.dropWhile isParameter with
      | final :: after => if isFinal final then some after else none
      | [] => none
  | _ => none

/-- A sequence takes some code points away from the front. -/
theorem after?_suffix {text after : List CodePoint} (h : after? text = some after) :
    after <:+ text ∧ after.length < text.length := by
  unfold after? at h
  split at h
  · rename_i rest
    have left := List.dropWhile_suffix isParameter (l := rest)
    have shorter := left.length_le
    split at h
    · rename_i final tail same
      split at h
      · cases h
        rw [same] at left shorter
        refine ⟨?_, by simp only [List.length_cons] at shorter ⊢; omega⟩
        exact ((List.suffix_cons final after).trans left).trans
          ((List.suffix_cons _ rest).trans (List.suffix_cons _ _))
      · cases h
    · cases h
  · cases h

/-- A text without the sequences in it. -/
def drop : List CodePoint → List CodePoint
  | [] => []
  | c :: rest =>
      match _found : after? (c :: rest) with
      | some after => drop after
      | none => c :: drop rest
termination_by text => text.length
decreasing_by
  · exact (after?_suffix _found).2
  · exact Nat.lt_succ_self _

/-- Nothing is added. -/
theorem drop_sublist (text : List CodePoint) : (drop text).Sublist text := by
  fun_induction drop text with
  | case1 => exact .slnil
  | case2 c rest after found ih => exact ih.trans (after?_suffix found).1.sublist
  | case3 c rest none ih => exact ih.cons_cons c

end CaptureDesk.Text.ControlSequence
