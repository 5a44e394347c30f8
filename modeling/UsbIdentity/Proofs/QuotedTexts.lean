import UsbIdentity.Proofs.Delimiting

namespace UsbIdentity.Text.Quoted

theorem decodeBody_of_no_quote {text : List Char} (absent : '"' ∉ text) :
    decodeBody text = none := by
  fun_induction decodeBody text <;> simp_all

theorem eq_escape_of_quote_mem {b : UInt8} {start : List Char} (begins : start <+: escape b)
    (quote : '"' ∈ start) : start = escape b := by
  have member : '"' ∈ escape b := begins.subset quote
  rcases escape_cases b with
    ⟨_, written⟩ | ⟨_, written⟩ | ⟨c, _, _, other, _, written⟩ | written <;>
    rw [written] at begins member ⊢
  · rcases List.prefix_concat_iff.1 (show start <+: ['\\'] ++ ['"'] from begins) with same | before
    · exact same
    · exact absurd (before.subset quote) (by decide)
  · exact absurd member (by decide)
  · exact absurd (List.mem_singleton.1 member).symm other
  · have digits : '"' ∉ Hex.byte b := Hex.not_mem_byte (by decide) b
    simp [digits] at member

theorem decodeBody_of_proper {bytes : List UInt8} {start : List Char}
    (begins : start <+: bytes.flatMap escape ++ ['"'])
    (proper : start ≠ bytes.flatMap escape ++ ['"']) : decodeBody start = none := by
  induction bytes generalizing start with
  | nil =>
    rcases List.prefix_concat_iff.1 begins with same | before
    · exact absurd same proper
    · rw [List.prefix_nil.1 before]
      rfl
  | cons b bytes ih =>
    rw [List.flatMap_cons, List.append_assoc] at begins proper
    -- The text stops within the first byte or goes on behind it.
    rcases List.prefix_or_prefix_of_prefix begins (List.prefix_append _ _) with within | ⟨rest, rfl⟩
    · by_cases quote : '"' ∈ start
      · rw [eq_escape_of_quote_mem within quote, ← List.append_nil (escape b), decodeBody_escape]
        rfl
      · exact decodeBody_of_no_quote quote
    · rw [List.prefix_append_right_inj] at begins
      rw [decodeBody_escape, ih begins fun same => proper (by rw [same])]
      rfl

theorem decode_of_proper {text : String} {start : List Char} (begins : start <+: encode text)
    (proper : start ≠ encode text) : decode start = none := by
  cases start with
  | nil => rfl
  | cons c start =>
    obtain ⟨rfl, inner⟩ := List.cons_prefix_cons.1 begins
    exact decodeBody_of_proper inner fun same => proper (congrArg ('"' :: ·) same)

/-- A quoted text is one line of printable characters. Reading it gives the bytes of the text and
leaves what follows as it is, and nothing can be read from a mere beginning of it. So where two
quoted texts go on in such a way that they are the same characters, the texts are the same and so is
what follows them. -/
theorem quoted_text_delimits_itself (s t : String) (u v : List Char) :
    Line (encode s) ∧
    decode (encode s ++ u) = some (utf8 s, u) ∧
    (∀ start, start <+: encode s → start ≠ encode s → decode start = none) ∧
    (encode s ++ u = encode t ++ v → s = t ∧ u = v) := by
  refine ⟨line_encode s, decode_encode_append s u, ?_, encode_append_inj⟩
  intro start begins proper
  exact decode_of_proper begins proper

theorem quoted_imitation_is_read_as_name :
    let name := "Stick\" hash \"\\x22é"
    let after := " hash \"00\"".toList
    decode (encode name ++ after) = some (utf8 name, after) ∧
    decode (encode name).dropLast = none ∧
    encode name ++ after ≠ encode "Stick" ++ (after ++ after) := by
  intro name after
  obtain ⟨_, read, proper, apart⟩ := quoted_text_delimits_itself name "Stick" after (after ++ after)
  refine ⟨read, proper _ (List.dropLast_prefix _) ?_, ?_⟩
  · intro same
    have length := congrArg List.length same
    simp [encode] at length
  · intro same
    have names := (apart same).1
    revert names
    decide

end UsbIdentity.Text.Quoted
