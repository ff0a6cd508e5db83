import TextMate.Proofs.Source.LexLiteral

/-
  This file proves that a literal has as few hashes as it can
  have.

  A raw text ends at the first quote that as many hashes follow
  as it started with, and has no bare carriage return.  This
  rule is stated here on its own, without the states of the
  lexer.

  Main declarations:
    * `rawForm`
    * `readRaw?`, `readRawLiteral?`
    * `replicate_prefix_iff`
    * `readRaw?_closed_iff`
    * `carriageReturn_not_mem_quoted`
    * `literal_isShortest`
-/

namespace TextMate

namespace Source

------------------------------------------------------------
-- Raw Literals of Any Length
------------------------------------------------------------

/- A raw literal for a text with a number of hashes. -/
def rawForm
    (hashes : Nat)
    (text : List Char) : List Char :=
  let fence := List.replicate hashes '#'
  'r' :: (fence ++ '"' :: (text ++ '"' :: fence))

/-
  A raw text behind its opening quote, up to the first quote
  that as many hashes follow, and what stands behind these.
-/
def readRaw?
    (hashes : Nat) :
    List Char → Option (List Char × List Char)
  | [] => none
  | c :: rest =>
      if c = '"' ∧ List.replicate hashes '#' <+: rest then
        some ([], rest.drop hashes)
      else if c = '\r' then none
      else
        (readRaw? hashes rest).map fun (text, behind) =>
          (c :: text, behind)

/-
  The text of the raw literal that a source starts with, and
  what stands behind the literal.
-/
def readRawLiteral? :
    List Char → Option (List Char × List Char)
  | 'r' :: source =>
      let hashes := (source.takeWhile (· == '#')).length
      match source.drop hashes with
      | '"' :: rest => readRaw? hashes rest
      | _ => none
  | _ => none

------------------------------------------------------------
-- Hashes
------------------------------------------------------------

/- A literal in raw form is read from its opening quote on. -/
theorem readRawLiteral?_rawForm
    (hashes : Nat)
    (text : List Char) :
    readRawLiteral? (rawForm hashes text) =
      readRaw? hashes
        (text ++ '"' :: List.replicate hashes '#') := by
  have hRun :
      (List.replicate hashes '#' ++
          '"' :: (text ++ '"' :: List.replicate hashes '#')).takeWhile
          (· == '#') =
        List.replicate hashes '#' := by
    rw [List.takeWhile_append_of_pos (by simp),
      List.takeWhile_cons_of_neg (by decide), List.append_nil]
  simp only [rawForm, readRawLiteral?, hRun,
    List.length_replicate]
  rw [List.drop_left' List.length_replicate]
  rfl

/-
  A number of hashes follows in front of a quote if the run of
  hashes at the start is that long.
-/
theorem replicate_prefix_iff
    {hashes : Nat}
    {text rest : List Char} :
    List.replicate hashes '#' <+: text ++ '"' :: rest ↔
      hashes ≤ (text.takeWhile (· == '#')).length := by
  induction hashes generalizing text with
  | zero => simp
  | succ hashes ih =>
      rw [List.replicate_succ]
      cases text with
      | nil => simp
      | cons c text =>
          rw [List.cons_append, List.cons_prefix_cons, ih]
          by_cases hHash : c = '#'
          · subst hHash
            simp
          · simp [hHash, Ne.symm hHash]

------------------------------------------------------------
-- Ends of Raw Texts
------------------------------------------------------------

/-
  A text with a closing fence behind it is read back as a whole
  if it has no carriage return and the fence is long enough.  If
  it is not then a quote of the text ends it earlier.
-/
theorem readRaw?_closed_iff
    {hashes : Nat}
    {text : List Char} :
    readRaw? hashes
        (text ++ '"' :: List.replicate hashes '#') =
          some (text, []) ↔
      '\r' ∉ text ∧ fenceLength text ≤ hashes := by
  induction text with
  | nil => simp [readRaw?, fenceLength, countHashes]
  | cons c text ih =>
      have hTail :
          ((readRaw? hashes
              (text ++ '"' :: List.replicate hashes '#')).map
              fun (read, behind) => (c :: read, behind)) =
                some (c :: text, []) ↔
            '\r' ∉ text ∧ fenceLength text ≤ hashes := by
        rw [← ih, Option.map_eq_some_iff]
        simp
      rw [List.cons_append, readRaw?, fenceLength_cons,
        List.mem_cons, not_or]
      by_cases hQuote : c = '"'
      · subst hQuote
        by_cases hEnds :
            hashes ≤ (text.takeWhile (· == '#')).length
        · -- The literal ends at this quote, before its last one.
          rw [if_pos ⟨rfl, replicate_prefix_iff.mpr hEnds⟩,
            if_pos rfl]
          constructor
          · intro hRead
            cases hRead
          · rintro ⟨-, hFence⟩
            omega
        · have hGoesOn :
              ¬List.replicate hashes '#' <+:
                text ++ '"' :: List.replicate hashes '#' :=
            mt replicate_prefix_iff.mp hEnds
          rw [if_neg fun hBoth => hGoesOn hBoth.2,
            if_neg (by decide), if_pos rfl, hTail]
          constructor
          · rintro ⟨hReturn, hFence⟩
            exact ⟨⟨by decide, hReturn⟩, by omega⟩
          · rintro ⟨⟨-, hReturn⟩, hFence⟩
            exact ⟨hReturn, by omega⟩
      · rw [if_neg fun hBoth => hQuote hBoth.1, if_neg hQuote]
        by_cases hReturn : c = '\r'
        · rw [if_pos hReturn]
          simp [hReturn]
        · rw [if_neg hReturn, hTail]
          simp [Ne.symm hReturn]

------------------------------------------------------------
-- Escaped Literals
------------------------------------------------------------

/- The hexadecimal text of a number consists of digits. -/
theorem isSome_hexValue?_of_mem_toDigits
    {n : Nat}
    {c : Char}
    (hMember : c ∈ Nat.toDigits 16 n) :
    (Text.hexValue? c).isSome := by
  induction n using Nat.strongRecOn with
  | ind n ih =>
      rw [Nat.toDigits_eq_if (by omega)] at hMember
      split at hMember
      · next hDigit =>
          rw [List.mem_singleton.mp hMember,
            hexValue?_digitChar hDigit]
          rfl
      · next hLarge =>
          rcases List.mem_append.mp hMember with hFirst | hLast
          · exact ih (n / 16) (by omega) hFirst
          · rw [List.mem_singleton.mp hLast,
              hexValue?_digitChar (Nat.mod_lt n (by omega))]
            rfl

/- An escape has no carriage return. -/
theorem carriageReturn_not_mem_escapeChar
    (c : Char) :
    '\r' ∉ Text.escapeChar c := by
  unfold Text.escapeChar
  split
  · decide
  · decide
  · decide
  · decide
  · decide
  · decide
  · next hNull hTab hReturn hLine hQuote hSlash =>
      split
      · have hDigits : '\r' ∉ Nat.toDigits 16 c.toNat :=
          fun hMember =>
            absurd (isSome_hexValue?_of_mem_toDigits hMember)
              (by decide)
        simp [Text.codePointEscape, hDigits]
      · simpa using Ne.symm hReturn

/- An escaped literal has none, whatever its text is. -/
theorem carriageReturn_not_mem_quoted
    (text : List Char) :
    '\r' ∉ Text.quoted text := by
  have hBody : '\r' ∉ text.flatMap Text.escapeChar := by
    intro hReturn
    rcases List.mem_flatMap.mp hReturn with ⟨c, -, hEscape⟩
    exact carriageReturn_not_mem_escapeChar c hEscape
  simp [Text.quoted, hBody]

------------------------------------------------------------
-- Literals
------------------------------------------------------------

/-
  A text without carriage returns has a raw literal that ends
  at its last character, with as few hashes as such a literal
  can have.  A text with one has no raw literal, and its literal
  is escaped and has no bare carriage return.  Either literal is
  read as the text, up to the end.
-/
theorem literal_isShortest
    (text : String) :
    let chars := text.toList
    let written := (literal text).toList
    ('\r' ∉ chars →
        ∃ hashes, written = rawForm hashes chars ∧
          ∀ others,
            readRawLiteral? (rawForm others chars) =
                some (chars, []) ↔
              hashes ≤ others) ∧
      ('\r' ∈ chars →
        (∃ body, written = '"' :: (body ++ ['"'])) ∧
          '\r' ∉ written ∧
          ∀ hashes,
            readRawLiteral? (rawForm hashes chars) ≠
              some (chars, [])) ∧
      scan .space written = some ([.text text], .behindText) := by
  intro chars written
  have hWritten : written = literalChars chars :=
    String.toList_ofList
  have hReads :
      ∀ hashes,
        readRawLiteral? (rawForm hashes chars) =
            some (chars, []) ↔
          '\r' ∉ chars ∧ fenceLength chars ≤ hashes := by
    intro hashes
    rw [readRawLiteral?_rawForm]
    exact readRaw?_closed_iff
  refine ⟨fun hReturn => ?_, fun hReturn => ?_, ?_⟩
  · have hRaw : written = rawForm (fenceLength chars) chars := by
      rw [hWritten, literalChars,
        if_neg (mt List.contains_iff_mem.mp hReturn)]
      rfl
    refine ⟨fenceLength chars, hRaw, fun others => ?_⟩
    rw [hReads]
    exact and_iff_right hReturn
  · have hQuoted : written = Text.quoted chars := by
      rw [hWritten, literalChars,
        if_pos (List.contains_iff_mem.mpr hReturn)]
    rw [hQuoted]
    refine ⟨⟨_, rfl⟩, carriageReturn_not_mem_quoted chars, ?_⟩
    intro hashes hRead
    exact ((hReads hashes).mp hRead).1 hReturn
  · rw [hWritten, scan_literalChars, String.ofList_toList]

/-
  A quote with a hash behind it takes two hashes, and one would
  not do.  A carriage return is escaped.
-/
theorem literal_isShortest_quotedHash :
    let fenced := "#\"#x"
    let returned := "a\rb"
    literal fenced = "r##\"#\"#x\"##" ∧
      readRawLiteral? (rawForm 1 fenced.toList) ≠
        some (fenced.toList, []) ∧
      literal returned = "\"a\\rb\"" ∧
      '\r' ∉ (literal returned).toList ∧
      scan .space (literal fenced).toList =
        some ([.text fenced], .behindText) := by
  intro fenced returned
  have hFenced : literal fenced = "r##\"#\"#x\"##" := by
    decide +kernel
  have hPlain : '\r' ∉ fenced.toList := by
    decide
  have hReturn : '\r' ∈ returned.toList := by
    decide
  rcases (literal_isShortest fenced).1 hPlain with
    ⟨hashes, hForm, hShortest⟩
  have hTwo : hashes = 2 := by
    have hLength := congrArg List.length hForm
    rw [hFenced] at hLength
    simp [rawForm, fenced] at hLength
    omega
  refine
    ⟨hFenced, fun hRead => ?_, by decide +kernel,
      ((literal_isShortest returned).2.1 hReturn).2.1,
      (literal_isShortest fenced).2.2⟩
  have hLess := (hShortest 1).mp hRead
  omega

end Source

end TextMate
