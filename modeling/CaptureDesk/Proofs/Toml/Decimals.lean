import CaptureDesk.Proofs.Toml.Literals

/-!
# Decimals as TOML

Digits with a point between them are read as one number, since they begin like a whole one
(`scalar_decimal`).  Infinity and what is not a number are read from their words.
-/

namespace CaptureDesk.Toml

open Json (decimalFloat)

section Decimals

variable {whole places rest : List Char}

theorem fraction?_append (areDigits : ∀ c ∈ places, c.isDigit = true) (nonempty : places ≠ [])
    (ends : Ends rest) : fraction? ('.' :: (places ++ rest)) = some (places, rest) := by
  cases places with
  | nil => exact absurd rfl nonempty
  | cons d places =>
      rw [fraction?, List.cons_append, grouped?, if_pos (areDigits d List.mem_cons_self),
        groupedRest_append (fun c member => areDigits c (List.mem_cons_of_mem d member)) ends]

/-- **A decimal is read**, with a minus if there is one. -/
theorem scalar_decimal (isWhole : Whole whole) (areDigits : ∀ c ∈ places, c.isDigit = true)
    (nonempty : places ≠ []) (stops : Stops rest) (negative : Bool) :
    scalar ((if negative then ['-'] else []) ++ (whole ++ '.' :: (places ++ rest))) =
      .ok (.float (decimalFloat negative whole places 0), rest) := by
  apply isWhole.scalar (.point (places ++ rest))
  simp only [decimal?, isWhole.sign, isWhole.whole? (.point (places ++ rest)),
    fraction?_append areDigits nonempty (.stops stops), exponent?_of_stops stops,
    Option.bind_eq_bind, Option.bind_some]

/-- What is not finite is read from its word. -/
theorem scalar_words (rest : List Char) :
    scalar ("inf".toList ++ rest) = .ok (.float (1.0 / 0.0), rest) ∧
      scalar ("-inf".toList ++ rest) = .ok (.float (-1.0 / 0.0), rest) ∧
      scalar ("nan".toList ++ rest) = .ok (.float (0.0 / 0.0), rest) := by
  refine ⟨?_, ?_, ?_⟩
  · show scalar ('i' :: 'n' :: 'f' :: rest) = _
    rw [scalar, moment?_of_other (by decide)]
    · rfl
    all_goals simp
  · show scalar ('-' :: 'i' :: 'n' :: 'f' :: rest) = _
    rw [scalar, moment?_of_other (by decide)]
    · rfl
    all_goals simp
  · show scalar ('n' :: 'a' :: 'n' :: rest) = _
    rw [scalar, moment?_of_other (by decide)]
    · rfl
    all_goals simp

end Decimals

end CaptureDesk.Toml
