import TextMate.Source.Literal
import TextMate.Proofs.Source.Lexer

/-
  This file proves that both kinds of literals are read as the
  text that they were written for.

  An escaped literal is read character by character.  Of a raw
  one it takes that its fence is longer than any run of hashes
  behind a quote of the text.

  Main declarations:
    * `scan_append`
    * `scan_escapeChar`
    * `countHashes_eq_max`, `fenceLength_cons`
    * `scan_raw`
    * `scan_quoted`
    * `scan_literalChars`
-/

namespace TextMate

namespace Source

------------------------------------------------------------
-- Parts of a Text
------------------------------------------------------------

/- A text in two parts is read part by part. -/
theorem scan_append
    {state between after : Scan}
    {first second : List Char}
    {lexemes others : List Lexeme}
    (hFirst : scan state first = some (lexemes, between))
    (hSecond : scan between second = some (others, after)) :
    scan state (first ++ second) =
      some (lexemes ++ others, after) := by
  induction first generalizing state lexemes with
  | nil =>
      cases hFirst
      exact hSecond
  | cons c first ih =>
      rw [scan] at hFirst
      rw [List.cons_append, scan]
      cases hStep : state.step c with
      | none =>
          rw [hStep] at hFirst
          cases hFirst
      | some stepped =>
          rcases stepped with ⟨own, next⟩
          rw [hStep] at hFirst
          cases hRest : scan next first with
          | none =>
              simp only [hRest, Option.bind_eq_bind,
                Option.bind_some, Option.bind_none] at hFirst
              cases hFirst
          | some read =>
              rcases read with ⟨more, state⟩
              simp only [hRest, Option.bind_eq_bind,
                Option.bind_some] at hFirst
              cases hFirst
              simp only [ih hRest, Option.bind_eq_bind,
                Option.bind_some, List.append_assoc]
              rfl

/- A character that ends no lexeme only changes the state. -/
theorem scan_cons
    {state next after : Scan}
    {c : Char}
    {rest : List Char}
    {lexemes : List Lexeme}
    (hStep : state.step c = some ([], next))
    (hRest : scan next rest = some (lexemes, after)) :
    scan state (c :: rest) = some (lexemes, after) := by
  rw [scan, hStep]
  simp only [Option.bind_eq_bind, Option.bind_some, hRest]
  rfl

------------------------------------------------------------
-- Escaped Literals
------------------------------------------------------------

/- A hexadecimal digit has its value. -/
theorem hexValue?_digitChar
    {n : Nat}
    (hDigit : n < 16) :
    Text.hexValue? (Nat.digitChar n) = some n := by
  have hAll :
      ∀ m : Fin 16,
        Text.hexValue? (Nat.digitChar m) = some m.val := by
    decide
  exact hAll ⟨n, hDigit⟩

/- A hexadecimal digit is read in a code point. -/
theorem step_codePoint
    (text : List Char)
    (value : Nat)
    {length : Nat}
    (hLength : length < 6)
    {n : Nat}
    (hDigit : n < 16) :
    (Scan.codePoint text value length).step (Nat.digitChar n) =
      some ([],
        .codePoint text (16 * value + n) (length + 1)) := by
  have hOther :
      ∀ m : Fin 16,
        Nat.digitChar m ≠ '\x7d' ∧ Nat.digitChar m ≠ '_' := by
    decide
  rw [Scan.step, Scan.inCodePoint,
    if_neg (hOther ⟨n, hDigit⟩).1,
    if_neg fun hBar => (hOther ⟨n, hDigit⟩).2 hBar.1,
    hexValue?_digitChar hDigit]
  simp only [hLength, if_true]

/- A number of few hexadecimal digits is read. -/
theorem scan_toDigits
    (text : List Char)
    {digits : Nat}
    (hFew : digits ≤ 6)
    {n : Nat}
    (hBound : n < Nat.pow 16 digits)
    (hSome : 0 < digits) :
    ∃ length, 0 < length ∧ length ≤ digits ∧
      scan (.codePoint text 0 0) (Nat.toDigits 16 n) =
        some ([], .codePoint text n length) := by
  induction digits generalizing n with
  | zero => exact absurd hSome (Nat.lt_irrefl 0)
  | succ digits ih =>
      rw [Nat.toDigits_eq_if (by omega)]
      split
      · next hDigit =>
          have hStep :=
            step_codePoint text 0 (by omega : 0 < 6) hDigit
          rw [Nat.mul_zero, Nat.zero_add] at hStep
          exact ⟨1, by omega, by omega, scan_cons hStep rfl⟩
      · next hLarge =>
          have hDigits : 0 < digits := by
            rcases digits with - | digits
            · exact absurd hBound hLarge
            · exact Nat.succ_pos digits
          have hPrefix : n / 16 < Nat.pow 16 digits := by
            rw [Nat.pow_eq, Nat.pow_succ, Nat.mul_comm] at hBound
            exact Nat.div_lt_of_lt_mul hBound
          have hLast : n % 16 < 16 := Nat.mod_lt n (by omega)
          rcases ih (by omega) hPrefix hDigits with
            ⟨length, hPositive, hLength, hScan⟩
          have hRoom : length < 6 := by omega
          have hStep :=
            step_codePoint text (n / 16) hRoom hLast
          rw [Nat.div_add_mod] at hStep
          exact
            ⟨length + 1, by omega, by omega,
              scan_append hScan (scan_cons hStep rfl)⟩

/- The escape of a code point is read as its character. -/
theorem scan_codePointEscape
    (text : List Char)
    (c : Char) :
    scan (.quoted text) (Text.codePointEscape c) =
      some ([], .quoted (text ++ [c])) := by
  have hBound : c.toNat < 16 ^ 6 := by
    have hValid : c.toNat.isValidChar := c.valid
    rcases hValid with hLow | hHigh
    · exact Nat.lt_trans hLow (by decide)
    · exact Nat.lt_trans hHigh.2 (by decide)
  rcases scan_toDigits text (Nat.le_refl 6) hBound (by omega)
    with ⟨length, hSome, -, hDigits⟩
  have hEnd :
      (Scan.codePoint text c.toNat length).step '\x7d' =
        some ([], .quoted (text ++ [c])) := by
    have hBoth : 0 < length ∧ c.toNat.isValidChar :=
      ⟨hSome, c.valid⟩
    rw [Scan.step, Scan.inCodePoint, if_pos rfl, if_pos hBoth,
      Char.ofNat_toNat]
  exact
    scan_cons rfl
      (scan_cons rfl
        (scan_cons rfl
          (scan_append hDigits (scan_cons hEnd rfl))))

/- The written form of a character is read as itself. -/
theorem scan_escapeChar
    (text : List Char)
    (c : Char) :
    scan (.quoted text) (Text.escapeChar c) =
      some ([], .quoted (text ++ [c])) := by
  unfold Text.escapeChar
  split
  · rfl
  · rfl
  · rfl
  · rfl
  · rfl
  · rfl
  · next hNull hTab hReturn hLine hQuote hSlash =>
      split
      · exact scan_codePointEscape text c
      · have hStep :
            (Scan.quoted text).step c =
              some ([], .quoted (text ++ [c])) := by
          rw [Scan.step, Scan.inQuoted, if_neg hQuote,
            if_neg hSlash, if_neg hReturn]
        exact scan_cons hStep rfl

/- A text is read behind the opening quote of a literal. -/
theorem scan_flatMap_escapeChar
    (before text : List Char) :
    scan (.quoted before) (text.flatMap Text.escapeChar) =
      some ([], .quoted (before ++ text)) := by
  induction text generalizing before with
  | nil => rw [List.append_nil]; rfl
  | cons c text ih =>
      have hRest := ih (before ++ [c])
      rw [List.append_assoc, List.singleton_append] at hRest
      rw [List.flatMap_cons]
      exact scan_append (scan_escapeChar before c) hRest

/- An escaped literal is read as its text. -/
theorem scan_quoted
    (text : List Char) :
    scan .space (Text.quoted text) =
      some ([.text (String.ofList text)], .behindText) := by
  have hText := scan_flatMap_escapeChar [] text
  have hEnd :
      scan (.quoted text) ['"'] =
        some ([.text (String.ofList text)], .behindText) := rfl
  exact scan_cons rfl (scan_append hText hEnd)

------------------------------------------------------------
-- Fences
------------------------------------------------------------

/- A quote starts a run, whatever was read before. -/
theorem countHashes_quote
    (run : Option Nat)
    (hashes : Nat)
    (text : List Char) :
    countHashes run hashes ('"' :: text) =
      countHashes (some 0) (max hashes 1) text := rfl

/- A hash makes a run longer. -/
theorem countHashes_hash
    (length hashes : Nat)
    (text : List Char) :
    countHashes (some length) hashes ('#' :: text) =
      countHashes (some (length + 1))
        (max hashes (length + 2)) text := rfl

/- Any other character ends a run. -/
theorem countHashes_other
    (run : Option Nat)
    (hashes : Nat)
    {c : Char}
    (hQuote : c ≠ '"')
    (hHash : c ≠ '#')
    (text : List Char) :
    countHashes run hashes (c :: text) =
      countHashes none hashes text := by
  rw [countHashes, hashRun, if_neg hQuote, if_neg hHash]

/- A character that is no quote starts no run. -/
theorem countHashes_none
    (hashes : Nat)
    {c : Char}
    (hQuote : c ≠ '"')
    (text : List Char) :
    countHashes none hashes (c :: text) =
      countHashes none hashes text := by
  rw [countHashes, hashRun, if_neg hQuote]
  by_cases hHash : c = '#' <;> simp [hHash]

/-
  The rest of a text is counted as from its start, and what is
  needed most is what it takes: the hashes so far, those of the
  rest, or those of a run that goes on into the rest.  The run
  was counted up to where it was read.
-/
theorem countHashes_eq_max
    (text : List Char) :
    (∀ hashes,
        countHashes none hashes text =
          max hashes (fenceLength text)) ∧
      ∀ length hashes, length < hashes →
        countHashes (some length) hashes text =
          max hashes
            (max
              (length + 1 +
                (text.takeWhile (· == '#')).length)
              (fenceLength text)) := by
  induction text with
  | nil =>
      constructor
      · intro hashes
        exact (Nat.max_zero hashes).symm
      · intro length hashes hLess
        simp only [countHashes, fenceLength, List.takeWhile_nil,
          List.length_nil]
        omega
  | cons c text ih =>
      rcases ih with ⟨hPlain, hBehind⟩
      by_cases hQuote : c = '"'
      · subst hQuote
        have hFence :
            fenceLength ('"' :: text) =
              max 1
                (max (0 + 1 + (text.takeWhile (· == '#')).length)
                  (fenceLength text)) :=
          hBehind 0 1 Nat.zero_lt_one
        constructor
        · intro hashes
          rw [countHashes_quote, hBehind 0 _ (by omega), hFence]
          omega
        · intro length hashes hLess
          rw [countHashes_quote, hBehind 0 _ (by omega), hFence,
            List.takeWhile_cons_of_neg (by decide)]
          simp only [List.length_nil]
          omega
      · have hFence :
            fenceLength (c :: text) = fenceLength text :=
          countHashes_none 0 hQuote text
        constructor
        · intro hashes
          rw [countHashes_none hashes hQuote, hPlain, hFence]
        · intro length hashes hLess
          by_cases hHash : c = '#'
          · subst hHash
            rw [countHashes_hash, hBehind _ _ (by omega),
              hFence, List.takeWhile_cons_of_pos (by decide),
              List.length_cons]
            omega
          · rw [countHashes_other _ _ hQuote hHash, hPlain,
              hFence, List.takeWhile_cons_of_neg (by simpa)]
            simp only [List.length_nil]
            omega

/-
  So the fence of a text is longer than any run of hashes behind
  a quote of the text.
-/
theorem fenceLength_cons
    (c : Char)
    (text : List Char) :
    fenceLength (c :: text) =
      if c = '"' then
        max (1 + (text.takeWhile (· == '#')).length)
          (fenceLength text)
      else fenceLength text := by
  split
  · rename_i hQuote
    rw [hQuote, fenceLength, countHashes_quote,
      (countHashes_eq_max text).2 _ _ (by decide)]
    omega
  · rename_i hQuote
    exact countHashes_none 0 hQuote text

------------------------------------------------------------
-- Raw Literals
------------------------------------------------------------

/- The closing fence of a raw text ends it. -/
theorem scan_closing_replicate
    (text : List Char)
    {seen hashes : Nat}
    (hSeen : seen < hashes) :
    scan (.closing hashes seen text)
        (List.replicate (hashes - seen) '#') =
      some ([.text (String.ofList text)], .behindText) := by
  induction hLeft : hashes - seen generalizing seen with
  | zero => omega
  | succ left ih =>
      rw [List.replicate_succ]
      by_cases hLast : seen + 1 = hashes
      · have hNone : left = 0 := by omega
        subst hNone
        rw [List.replicate_zero, scan, Scan.step,
          Scan.inClosing, if_pos rfl, if_pos hLast]
        rfl
      · have hStep :
            (Scan.closing hashes seen text).step '#' =
              some ([], .closing hashes (seen + 1) text) := by
          rw [Scan.step, Scan.inClosing, if_pos rfl,
            if_neg hLast]
        exact scan_cons hStep (ih (by omega) (by omega))

/- A quote and the closing fence end a raw text. -/
theorem scan_raw_end
    (hashes : Nat)
    (text : List Char) :
    scan (.raw hashes text)
        ('"' :: List.replicate hashes '#') =
      some ([.text (String.ofList text)], .behindText) := by
  rcases hashes with - | hashes
  · rfl
  · have hStep :
        (Scan.raw (hashes + 1) text).step '"' =
          some ([], .closing (hashes + 1) 0 text) := by
      rw [Scan.step, Scan.inRaw, if_pos rfl,
        if_neg (Nat.succ_ne_zero hashes)]
    have hClose :=
      scan_closing_replicate text (Nat.succ_pos hashes)
    rw [Nat.sub_zero] at hClose
    exact scan_cons hStep hClose

/- A character that starts no fence is a part of a raw text. -/
theorem step_raw
    (hashes : Nat)
    (text : List Char)
    {c : Char}
    (hQuote : c ≠ '"')
    (hReturn : c ≠ '\r') :
    (Scan.raw hashes text).step c =
      some ([], .raw hashes (text ++ [c])) := by
  rw [Scan.step, Scan.inRaw, if_neg hQuote, if_neg hReturn]

/- What is no closing fence was a part of the raw text. -/
theorem scan_closing_other
    (hashes seen : Nat)
    (text : List Char)
    {c : Char}
    (hHash : c ≠ '#')
    (rest : List Char) :
    scan (.closing hashes seen text) (c :: rest) =
      scan (.raw hashes
          (text ++ '"' :: List.replicate seen '#'))
        (c :: rest) := by
  have hStep :
      (Scan.closing hashes seen text).step c =
        (Scan.raw hashes
          (text ++ '"' :: List.replicate seen '#')).step c := by
    show Scan.inClosing hashes seen text c = _
    rw [Scan.inClosing, if_neg hHash]
    rfl
  rw [scan, scan, hStep]

/- The text is read in a raw literal with that many hashes. -/
def ReadsRaw
    (hashes : Nat)
    (text : List Char) : Prop :=
  ∀ before,
    scan (.raw hashes before)
        (text ++ '"' :: List.replicate hashes '#') =
      some ([.text (String.ofList (before ++ text))],
        .behindText)

/-
  The text is also read where a quote and some hashes before
  it look like the start of the closing fence.
-/
def ReadsClosing
    (hashes : Nat)
    (text : List Char) : Prop :=
  ∀ before seen,
    seen + (text.takeWhile (· == '#')).length < hashes →
      scan (.closing hashes seen before)
          (text ++ '"' :: List.replicate hashes '#') =
        some ([.text (String.ofList
            (before ++ '"' :: List.replicate seen '#' ++ text))],
          .behindText)

/- A fence that is long enough is not taken for a part of it. -/
theorem readsRaw_cons
    {hashes : Nat}
    {c : Char}
    {text : List Char}
    (hFence : fenceLength (c :: text) ≤ hashes)
    (hReturn : c ≠ '\r')
    (hRaw : ReadsRaw hashes text)
    (hClosing : ReadsClosing hashes text) :
    ReadsRaw hashes (c :: text) := by
  intro before
  rw [List.cons_append]
  by_cases hQuote : c = '"'
  · subst hQuote
    rw [fenceLength_cons, if_pos rfl] at hFence
    have hSome : hashes ≠ 0 := by omega
    have hStep :
        (Scan.raw hashes before).step '"' =
          some ([], .closing hashes 0 before) := by
      rw [Scan.step, Scan.inRaw, if_pos rfl, if_neg hSome]
    have hRest := hClosing before 0 (by omega)
    rw [List.replicate_zero, List.append_assoc,
      List.singleton_append] at hRest
    exact scan_cons hStep hRest
  · have hRest := hRaw (before ++ [c])
    rw [List.append_assoc, List.singleton_append] at hRest
    exact scan_cons (step_raw hashes before hQuote hReturn) hRest

/- A hash may belong to a fence, and nothing else does. -/
theorem readsClosing_cons
    {hashes : Nat}
    {c : Char}
    {text : List Char}
    (hRaw : ReadsRaw hashes (c :: text))
    (hClosing : ReadsClosing hashes text) :
    ReadsClosing hashes (c :: text) := by
  intro before seen hSeen
  by_cases hHash : c = '#'
  · subst hHash
    rw [List.takeWhile_cons_of_pos (by rfl), List.length_cons]
      at hSeen
    have hLast : seen + 1 ≠ hashes := by omega
    have hStep :
        (Scan.closing hashes seen before).step '#' =
          some ([], .closing hashes (seen + 1) before) := by
      rw [Scan.step, Scan.inClosing, if_pos rfl, if_neg hLast]
    have hRest := hClosing before (seen + 1) (by omega)
    rw [List.replicate_succ', List.append_assoc,
      List.cons_append, List.append_assoc,
      List.singleton_append] at hRest
    rw [List.cons_append, List.append_assoc, List.cons_append]
    exact scan_cons hStep hRest
  · rw [List.cons_append, scan_closing_other _ _ _ hHash]
    exact hRaw _

/-
  A raw text without carriage returns is read up to its
  closing fence, if this is long enough.  Behind a quote of
  the text it may look as if the fence were there, but a hash
  is missing.
-/
theorem scan_raw
    {hashes : Nat}
    {text : List Char}
    (hFence : fenceLength text ≤ hashes)
    (hReturn : '\r' ∉ text) :
    ReadsRaw hashes text ∧ ReadsClosing hashes text := by
  induction text with
  | nil =>
      have hEnd : ReadsRaw hashes [] := by
        intro before
        rw [List.append_nil]
        exact scan_raw_end hashes before
      refine ⟨hEnd, ?_⟩
      intro before seen _
      rw [List.nil_append,
        scan_closing_other _ _ _ (by decide)]
      exact hEnd _
  | cons c text ih =>
      rw [List.mem_cons, not_or] at hReturn
      have hRest : fenceLength text ≤ hashes := by
        rw [fenceLength_cons] at hFence
        split at hFence <;> omega
      rcases ih hRest hReturn.2 with ⟨hRaw, hClosing⟩
      have hWhole :=
        readsRaw_cons hFence (Ne.symm hReturn.1) hRaw hClosing
      exact ⟨hWhole, readsClosing_cons hWhole hClosing⟩

/- The opening fence of a raw literal is read. -/
theorem scan_fence
    (hashes : Nat) :
    scan .space
        ('r' :: (List.replicate hashes '#' ++ ['"'])) =
      some ([], .raw hashes []) := by
  have hFence :
      ∀ seen left,
        scan (.fence seen) (List.replicate left '#' ++ ['"']) =
          some ([], .raw (seen + left) []) := by
    intro seen left
    induction left generalizing seen with
    | zero => rfl
    | succ left ih =>
        have hRest := ih (seen + 1)
        rw [Nat.add_right_comm] at hRest
        exact scan_cons rfl hRest
  refine scan_cons rfl ?_
  rcases hashes with - | hashes
  · rfl
  · have hRest := hFence 1 hashes
    rw [Nat.add_comm] at hRest
    exact scan_cons rfl hRest

/- A raw literal is read as its text. -/
theorem scan_rawLiteral
    {text : List Char}
    (hReturn : '\r' ∉ text) :
    scan .space (rawLiteral text) =
      some ([.text (String.ofList text)], .behindText) := by
  have hText :=
    (scan_raw (Nat.le_refl (fenceLength text)) hReturn).1 []
  have hWhole := scan_append (scan_fence (fenceLength text)) hText
  rw [List.cons_append, List.append_assoc,
    List.singleton_append] at hWhole
  exact hWhole

/- A literal of either kind is read as its text. -/
theorem scan_literalChars
    (text : List Char) :
    scan .space (literalChars text) =
      some ([.text (String.ofList text)], .behindText) := by
  rw [literalChars]
  by_cases hReturn : '\r' ∈ text
  · rw [if_pos (List.contains_iff_mem.mpr hReturn)]
    exact scan_quoted text
  · rw [if_neg (mt List.contains_iff_mem.mp hReturn)]
    exact scan_rawLiteral hReturn

end Source

end TextMate
