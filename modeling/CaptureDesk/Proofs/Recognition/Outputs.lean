import CaptureDesk.Proofs.Recognition.Blocks

/-!
# Outputs of the recognition helper

Whatever the helper has written is either found to be blocks or reported as an output of the wrong
shape, which is final.  Two kinds of numbers stand against that: a whole number with too many digits
is not read, and one that is too large to have a double near it cannot be looked at.
-/

namespace CaptureDesk.Recognition

/-- A value whose head is that of a block, and whose first number that is not between zero and one
is a whole number with no double near it. -/
def Overlarge (v : Value) : Prop :=
  (∃ text, Headed v text) ∧
    ∃ before key after, numberKeys = before ++ key :: after ∧
      (∀ k ∈ before, ∃ x, InRange (v.field (.plain k)) x) ∧ Beyond (v.field (.plain key))

section Faults

variable {v document : Value} {fault : Fault}

/-- A value that is no block has the wrong shape, or a number that is too large. -/
theorem Refused.cases (refused : Refused v fault) :
    (Overlarge v ∧ fault = .tooLarge) ∨ ∃ reason, fault = schemaFault reason := by
  cases refused with
  | number headed first =>
      obtain ⟨before, key, after, order, usable, unusable⟩ := first
      cases unusable with
      | beyond beyond =>
          exact .inl ⟨⟨⟨_, headed⟩, before, key, after, order, usable, beyond⟩, rfl⟩
      | outside => exact .inr ⟨_, rfl⟩
  | _ => exact .inr ⟨_, rfl⟩

theorem Overlarge.refused (overlarge : Overlarge v) : Refused v .tooLarge := by
  obtain ⟨⟨text, headed⟩, before, key, after, order, usable, beyond⟩ := overlarge
  exact .number headed ⟨before, key, after, order, usable, .beyond beyond⟩

/-- A document that is not accepted has the wrong shape, or the first of its items that is no block
has a number that is too large. -/
theorem blocks_cases (document : Value) :
    (∃ found, blocks document = .ok found) ∨
      (∃ reason, blocks document = .error (schemaFault reason)) ∨
        ∃ before bad after, document = .array (before ++ bad :: after) ∧
          (∀ v ∈ before, ∃ b, IsBlock v b) ∧ Overlarge bad := by
  cases judged : blocks document with
  | ok found => exact .inl ⟨found, rfl⟩
  | error fault =>
      refine .inr ?_
      obtain ⟨-, rfl⟩ | ⟨before, bad, after, split, valid, refused⟩ := blocks_eq_error_iff.1 judged
      · exact .inl ⟨_, rfl⟩
      · obtain ⟨overlarge, -⟩ | ⟨reason, rfl⟩ := refused.cases
        · exact .inr ⟨before, bad, after, split, valid, overlarge⟩
        · exact .inl ⟨reason, rfl⟩

end Faults

/-! ## What the helper has written -/

/-- What the helper has written: a text, or octets of unknown encoding. -/
inductive Output where
  | text (written : Str)
  | octets (written : List UInt8)

namespace Output

/-- The blocks in an output. -/
def found : Output → Except Fault (List TextBlock)
  | .text written => ofText written
  | .octets written => ofOctets written

/-- `o.Reads r`: the characters of the output are a text, and its reading gives `r`. -/
inductive Reads : Output → Except Json.Fault Value → Prop
  | text {written : Str} : Reads (.text written) (Json.read written.points)
  | octets {written : List UInt8} {text : List CodePoint}
      (decoded : Text.decodeDetected written = .ok text) :
      Reads (.octets written) (Json.decode text)

/-- The output is found to be blocks, or is reported as one of the wrong shape. -/
def Reported (o : Output) : Prop :=
  (∃ found, o.found = .ok found) ∨
    ∃ f : HelperFault, o.found = .error (.helper f) ∧ f.code = .providerSchemaInvalid ∧
      f.helper = "recognition" ∧ f.recoverable = false

/-- `o.Chokes fault`: the output has a number that cannot be converted, and that is a fault of
another kind. -/
inductive Chokes (o : Output) : Fault → Prop
  | long {count : Nat} (read : o.Reads (.error (.tooManyDigits count))) :
      Chokes o (.tooManyDigits count)
  | large {before after : List Value} {bad : Value}
      (read : o.Reads (.ok (.array (before ++ bad :: after))))
      (valid : ∀ v ∈ before, ∃ b, IsBlock v b) (overlarge : Overlarge bad) : Chokes o .tooLarge

variable {o : Output} {fault : Fault} {r : Except Json.Fault Value}

theorem reported_of_schemaFault {reason : String} (ended : o.found = .error (schemaFault reason)) :
    o.Reported :=
  .inr ⟨_, ended, rfl, rfl, rfl⟩

theorem Reads.found_eq (reads : o.Reads r) : ∃ text, o.found = ofReading text r := by
  cases reads with
  | text => exact ⟨_, rfl⟩
  | octets decoded => exact ⟨_, by rw [found, ofOctets, decoded]⟩

/-- An output is no text, or its reading settles what is found. -/
theorem reads_or_noText (o : Output) :
    (∃ r, o.Reads r) ∨ ∃ reason, o.found = .error (schemaFault reason) := by
  cases o with
  | text written => exact .inl ⟨_, .text⟩
  | octets written =>
      cases decoded : Text.decodeDetected written with
      | ok text => exact .inl ⟨_, .octets decoded⟩
      | error fault => exact .inr ⟨_, by rw [found, ofOctets, decoded]; rfl⟩

theorem found_of_chokes (chokes : o.Chokes fault) : o.found = .error fault := by
  cases chokes with
  | long read =>
      obtain ⟨text, found⟩ := read.found_eq
      exact found
  | @large before after bad read valid overlarge =>
      obtain ⟨text, found⟩ := read.found_eq
      exact found.trans
        (blocks_eq_error_iff.2 (.inr ⟨before, bad, after, rfl, valid, overlarge.refused⟩))

theorem reported_of_free (free : ∀ fault, ¬ o.Chokes fault) : o.Reported := by
  obtain ⟨r, reads⟩ | ⟨reason, ended⟩ := o.reads_or_noText
  · obtain ⟨text, found⟩ := reads.found_eq
    match r with
    | .error (.tooManyDigits count) => exact absurd (.long reads) (free _)
    | .error (.malformed ..) => exact reported_of_schemaFault found
    | .ok document =>
        obtain ⟨blocks, accepted⟩ | ⟨reason, ended⟩ | ⟨before, bad, after, rfl, valid, overlarge⟩ :=
          blocks_cases document
        · exact .inl ⟨blocks, found.trans accepted⟩
        · exact reported_of_schemaFault (found.trans ended)
        · exact absurd (.large reads valid overlarge) (free _)
  · exact reported_of_schemaFault ended

theorem not_reported_of_chokes (chokes : o.Chokes fault) : ¬ o.Reported := by
  have ended := found_of_chokes chokes
  rintro (⟨found, accepted⟩ | ⟨f, refused, -⟩)
  · rw [ended] at accepted
    cases accepted
  · obtain rfl := Except.error.inj (ended.symm.trans refused)
    cases chokes

/-- **What is reported.**  An output is found to be blocks, or reported as one of the wrong shape,
just if it does not choke; where it chokes, the fault is that of the number. -/
theorem reported_iff (o : Output) :
    (o.Reported ↔ ∀ fault, ¬ o.Chokes fault) ∧ ∀ fault, o.Chokes fault → o.found = .error fault :=
  ⟨⟨fun reported _ chokes => not_reported_of_chokes chokes reported, reported_of_free⟩,
    fun _ => found_of_chokes⟩

/-- A confidence of three hundred and ten digits is out of range, but it is not reported so. -/
theorem not_reported_large_confidence :
    let numeral := '1' :: List.replicate 309 '0'
    let o := Output.text (String.ofList
      ("[\x7b\"text\":\"a\",\"confidence\":".toList ++ numeral ++ "\x7d]".toList))
    o.found = .error .tooLarge ∧ ¬ o.Reported := by
  intro numeral o
  let n : Int := Json.decimalNumber numeral
  let item := Value.object [("text", .str "a"), ("confidence", .int n)]
  have read : o.Reads (.ok (.array ([] ++ item :: []))) := by
    have read : Json.read (("[\x7b\"text\":\"a\",\"confidence\":".toList ++ numeral ++
        "\x7d]".toList).map .char) = .ok (.array [item]) := by decide +kernel
    have reads : o.Reads (Json.read (Str.plain (String.ofList _)).points) := .text
    rwa [Str.points_plain, String.toList_ofList, read] at reads
  have overlarge : Overlarge item :=
    ⟨⟨"a", ⟨_, rfl⟩, rfl, .char 'a', by decide, by decide⟩, [], "confidence", _, rfl, nofun,
      n, by decide +kernel, by decide +kernel⟩
  have chokes : o.Chokes .tooLarge := .large read nofun overlarge
  exact ⟨found_of_chokes chokes, not_reported_of_chokes chokes⟩

end Output

end CaptureDesk.Recognition
