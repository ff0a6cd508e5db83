import TextMate.Source.Token
import TextMate.Proofs.Source.LexLiteral
import TextMate.Proofs.Text.Digits

/-
  This file proves that the text of tokens is read as the
  lexemes of the tokens.

  Words, numbers and literals have no mark of their own at the
  end, so between two of them there has to be a sign or a
  blank.

  Main declarations:
    * `Token.lexeme?`, `lexemes`
    * `Token.isSound`
    * `areSpaced`
    * `lex_textOf`
-/

namespace TextMate

namespace Source

open Text (isDigit digitValue)

------------------------------------------------------------
-- Lexemes of Tokens
------------------------------------------------------------

namespace Token

/- The lexeme that a token is read as, if it is no layout. -/
def lexeme? : Token → Option Lexeme
  | .word text => some (.word text)
  | .sign c => some (.sign c)
  | .number value => some (.number value)
  | .quoted text | .literal text => some (.text text)
  | .blank | .line _ => none

/- A word is one, and a sign is one of the signs. -/
def isSound : Token → Bool
  | .word text =>
      match text.toList with
      | [] => false
      | c :: rest => startsWord c && rest.all continuesWord
  | .sign c => isSign c
  | _ => true

/- The end of the token is seen by what comes behind it. -/
def isTight : Token → Bool
  | .word _ | .number _ | .quoted _ | .literal _ => true
  | .sign _ | .blank | .line _ => false

/- The state behind a token. -/
def state : Token → Scan
  | .word text => .word text.toList
  | .number value => .number value
  | .quoted _ | .literal _ => .behindText
  | .sign _ | .blank | .line _ => .space

/- The lexemes that a token ends. -/
def ended : Token → List Lexeme
  | .sign c => [.sign c]
  | .quoted text | .literal text => [.text text]
  | .word _ | .number _ | .blank | .line _ => []

/- The lexemes of a token that what comes behind it ends. -/
def pending : Token → List Lexeme
  | .word text => [.word text]
  | .number value => [.number value]
  | _ => []

/- The lexeme of a token is ended by it, or pending. -/
theorem ended_append_pending
    (token : Token) :
    token.ended ++ token.pending = token.lexeme?.toList := by
  cases token <;> rfl

end Token

/- The lexemes of tokens, in order. -/
def lexemes
    (tokens : List Token) : List Lexeme :=
  tokens.filterMap Token.lexeme?

section Lexemes

variable (tokens others : List Token)

@[simp] theorem lexemes_nil : lexemes [] = [] := rfl

@[simp] theorem lexemes_word
    (text : String) :
    lexemes (.word text :: tokens) =
      .word text :: lexemes tokens := rfl

@[simp] theorem lexemes_sign
    (c : Char) :
    lexemes (.sign c :: tokens) = .sign c :: lexemes tokens :=
  rfl

@[simp] theorem lexemes_number
    (value : Nat) :
    lexemes (.number value :: tokens) =
      .number value :: lexemes tokens := rfl

@[simp] theorem lexemes_quoted
    (text : String) :
    lexemes (.quoted text :: tokens) =
      .text text :: lexemes tokens := rfl

@[simp] theorem lexemes_literal
    (text : String) :
    lexemes (.literal text :: tokens) =
      .text text :: lexemes tokens := rfl

@[simp] theorem lexemes_blank :
    lexemes (.blank :: tokens) = lexemes tokens := rfl

@[simp] theorem lexemes_line
    (depth : Nat) :
    lexemes (.line depth :: tokens) = lexemes tokens := rfl

theorem lexemes_cons
    (token : Token) :
    lexemes (token :: tokens) =
      token.lexeme?.toList ++ lexemes tokens := by
  cases token <;> rfl

@[simp] theorem lexemes_append :
    lexemes (tokens ++ others) =
      lexemes tokens ++ lexemes others :=
  List.filterMap_append

end Lexemes

------------------------------------------------------------
-- Single Tokens
------------------------------------------------------------

/- No character that starts a word is between lexemes. -/
theorem start_of_startsWord
    {c : Char}
    (hStart : startsWord c = true) :
    Scan.start c = some ([], .word [c]) := by
  have hOther :
      ∀ d, startsWord d = false → c ≠ d := by
    rintro d hNone rfl
    rw [hStart] at hNone
    cases hNone
  have hSpace : isSpace c = false := by
    rw [isSpace, List.contains_eq_mem, decide_eq_false_iff_not]
    intro hMember
    have hAll :
        spaces.all (fun d => decide (startsWord d = false)) =
          true := by
      decide
    have hNone := List.all_eq_true.mp hAll c hMember
    exact hOther c (of_decide_eq_true hNone) rfl
  rw [Scan.start, hSpace, if_neg Bool.false_ne_true,
    if_neg (hOther '"' (by decide)), if_pos hStart]

/- A word is read as far as it was read. -/
theorem scan_word
    {rest : List Char}
    (hRest : ∀ c ∈ rest, continuesWord c = true)
    (before : List Char) :
    scan (.word before) rest =
      some ([], .word (before ++ rest)) := by
  induction rest generalizing before with
  | nil => rw [List.append_nil]; rfl
  | cons c rest ih =>
      have hStep :
          (Scan.word before).step c =
            some ([], .word (before ++ [c])) := by
        rw [Scan.step, Scan.afterWord,
          if_pos (hRest c List.mem_cons_self)]
      have hScan :=
        ih (fun d hMember =>
            hRest d (List.mem_cons_of_mem c hMember))
          (before ++ [c])
      rw [List.append_assoc, List.singleton_append] at hScan
      exact scan_cons hStep hScan

/- A decimal number is read as its value. -/
theorem scan_decimal
    (n : Nat) :
    scan .space (Nat.toDigits 10 n) = some ([], .number n) := by
  have hStart :
      ∀ m : Fin 10,
        Scan.start (Nat.digitChar m) =
          some ([], .number m.val) := by
    decide
  have hDigit :
      ∀ m : Fin 10,
        isDigit (Nat.digitChar m) = true ∧
          digitValue (Nat.digitChar m) = m.val := by
    decide
  induction n using Nat.strongRecOn with
  | ind n ih =>
      rw [Nat.toDigits_eq_if (by omega)]
      split
      · next hSmall => exact scan_cons (hStart ⟨n, hSmall⟩) rfl
      · next hLarge =>
          have hLast : n % 10 < 10 := Nat.mod_lt n (by omega)
          have hStep :
              (Scan.number (n / 10)).step
                  (Nat.digitChar (n % 10)) =
                some ([], .number n) := by
            rcases hDigit ⟨n % 10, hLast⟩ with ⟨hIs, hValue⟩
            rw [Scan.step, Scan.afterDigit, if_pos hIs, hValue,
              Nat.div_add_mod]
          exact
            scan_append (ih (n / 10) (by omega))
              (scan_cons hStep rfl)

/- The blanks in front of a line are no lexemes. -/
theorem scan_indentation
    (depth : Nat) :
    scan .space (Token.indentation depth) =
      some ([], .space) := by
  rw [Token.indentation]
  induction 4 * depth with
  | zero => rfl
  | succ width ih =>
      rw [List.replicate_succ]
      exact scan_cons rfl ih

/- A sign is read as itself. -/
theorem start_of_isSign
    {c : Char}
    (hSign : isSign c = true) :
    Scan.start c = some ([.sign c], .space) := by
  have hAll :
      signChars.all
          (fun d =>
            decide (Scan.start d = some ([.sign d], .space))) =
        true := by
    decide
  have hMember := List.contains_iff_mem.mp hSign
  exact of_decide_eq_true (List.all_eq_true.mp hAll c hMember)

/- A token is read behind a blank. -/
theorem scan_chars
    {token : Token}
    (hSound : token.isSound = true) :
    scan .space token.chars =
      some (token.ended, token.state) := by
  cases token with
  | word text =>
      rw [Token.chars]
      rw [Token.isSound] at hSound
      cases hText : text.toList with
      | nil =>
          rw [hText] at hSound
          cases hSound
      | cons c rest =>
          simp only [hText, Bool.and_eq_true, List.all_eq_true]
            at hSound
          have hRest := scan_word hSound.2 [c]
          rw [Token.state, hText]
          exact scan_cons (start_of_startsWord hSound.1) hRest
  | sign c =>
      rw [Token.chars, scan, Scan.step, start_of_isSign hSound]
      rfl
  | number value => exact scan_decimal value
  | quoted text =>
      have hText := scan_quoted text.toList
      rw [String.ofList_toList] at hText
      exact hText
  | literal text =>
      have hText := scan_literalChars text.toList
      rw [String.ofList_toList] at hText
      exact hText
  | blank => rfl
  | line depth => exact scan_cons rfl (scan_indentation depth)

------------------------------------------------------------
-- Tokens in Order
------------------------------------------------------------

/- The character ends every lexeme that it is no part of. -/
def IsSeparator
    (c : Char) : Prop :=
  isSign c = true ∨ c = ' ' ∨ c = '\n'

theorem IsSeparator.not_in_word
    {c : Char}
    (hSeparator : IsSeparator c) :
    continuesWord c = false ∧ c ≠ '"' ∧ c ≠ '#' := by
  have hSigns :
      signChars.all
          (fun d =>
            decide
              (continuesWord d = false ∧ d ≠ '"' ∧ d ≠ '#')) =
        true := by
    decide
  rcases hSeparator with hSign | rfl | rfl
  · have hMember := List.contains_iff_mem.mp hSign
    exact of_decide_eq_true (List.all_eq_true.mp hSigns c hMember)
  · decide
  · decide

/- A separator ends the lexeme of a token. -/
theorem step_state
    (token : Token)
    {c : Char}
    (hSeparator : IsSeparator c) :
    token.state.step c =
      (Scan.start c).map fun read =>
        (token.pending ++ read.1, read.2) := by
  rcases hSeparator.not_in_word with ⟨hWord, hQuote, hHash⟩
  have hSame :
      Scan.start c =
        (Scan.start c).map fun read => ([] ++ read.1, read.2) := by
    cases Scan.start c <;> rfl
  have hParts := hWord
  rw [continuesWord, Bool.or_eq_false_iff] at hParts
  cases token with
  | word text =>
      rw [Token.state, Scan.step, Scan.afterWord,
        if_neg (ne_true_of_eq_false hWord), if_neg hQuote,
        if_neg hHash, String.ofList_toList]
      rfl
  | number value =>
      rw [Token.state, Scan.step, Scan.afterDigit,
        if_neg (ne_true_of_eq_false hParts.2),
        if_neg (ne_true_of_eq_false hParts.1)]
      rfl
  | quoted text | literal text =>
      rw [Token.state, Scan.step,
        if_neg (ne_true_of_eq_false hWord)]
      exact hSame
  | sign _ | blank | line _ => exact hSame

/- A token that is not tight starts with a separator. -/
theorem exists_separator
    {token : Token}
    (hSound : token.isSound = true)
    (hLoose : token.isTight = false) :
    ∃ c rest, token.chars = c :: rest ∧ IsSeparator c := by
  cases token with
  | word _ | number _ | quoted _ | literal _ => cases hLoose
  | sign c => exact ⟨c, [], rfl, .inl hSound⟩
  | blank => exact ⟨' ', [], rfl, .inr (.inl rfl)⟩
  | line depth => exact ⟨'\n', _, rfl, .inr (.inr rfl)⟩

/- A token is read behind another, if one is not tight. -/
theorem scan_chars_behind
    {before token : Token}
    (hSound : token.isSound = true)
    (hApart : before.isTight = true → token.isTight = false) :
    scan before.state token.chars =
      some (before.pending ++ token.ended, token.state) := by
  have hToken := scan_chars hSound
  cases hTight : before.isTight with
  | false =>
      cases before with
      | word _ | number _ | quoted _ | literal _ => cases hTight
      | sign _ | blank | line _ => exact hToken
  | true =>
      rcases exists_separator hSound (hApart hTight) with
        ⟨c, rest, hChars, hSeparator⟩
      rw [hChars] at hToken ⊢
      rw [scan, Scan.step] at hToken
      rw [scan, step_state before hSeparator]
      cases hStart : Scan.start c with
      | none =>
          rw [hStart] at hToken
          cases hToken
      | some read =>
          rcases read with ⟨lexemes, state⟩
          rw [hStart] at hToken
          cases hRest : scan state rest with
          | none =>
              simp only [hRest, Option.bind_eq_bind,
                Option.bind_some, Option.bind_none] at hToken
              cases hToken
          | some more =>
              rcases more with ⟨others, last⟩
              simp only [hRest, Option.bind_eq_bind,
                Option.bind_some] at hToken
              rcases Prod.mk.inj (Option.some.inj hToken) with
                ⟨hEnded, hState⟩
              simp only [hRest, Option.map_some,
                Option.bind_eq_bind, Option.bind_some,
                ← hEnded, ← hState, ← List.append_assoc]
              rfl

/- The first token, if there is one, is not tight. -/
def startLoose : List Token → Bool
  | [] => true
  | token :: _ => !token.isTight

/- Tokens are sound, and of two in a row one is not tight. -/
def areSpaced : List Token → Bool
  | [] => true
  | token :: rest =>
      token.isSound && (!token.isTight || startLoose rest) &&
        areSpaced rest

/- The rest of a text is read behind a part of it. -/
theorem lexFrom_append
    {state between : Scan}
    {first second : List Char}
    {lexemes others : List Lexeme}
    (hFirst : scan state first = some (lexemes, between))
    (hSecond : lexFrom between second = some others) :
    lexFrom state (first ++ second) =
      some (lexemes ++ others) := by
  rw [lexFrom] at hSecond
  cases hScan : scan between second with
  | none =>
      rw [hScan] at hSecond
      cases hSecond
  | some read =>
      rcases read with ⟨more, last⟩
      rw [hScan] at hSecond
      cases hLast : last.finish with
      | none =>
          simp only [hLast, Option.bind_eq_bind,
            Option.bind_some, Option.bind_none] at hSecond
          cases hSecond
      | some ended =>
          simp only [hLast, Option.bind_eq_bind,
            Option.bind_some] at hSecond
          cases hSecond
          rw [lexFrom, scan_append hFirst hScan]
          simp only [hLast, Option.bind_eq_bind,
            Option.bind_some, List.append_assoc]
          rfl

/- Tokens are read behind a token. -/
theorem lexFrom_flatMap_chars
    (before : Token)
    {tokens : List Token}
    (hApart : before.isTight = true → startLoose tokens = true)
    (hSpaced : areSpaced tokens = true) :
    lexFrom before.state (tokens.flatMap Token.chars) =
      some (before.pending ++ lexemes tokens) := by
  induction tokens generalizing before with
  | nil =>
      cases before with
      | word text =>
          simp [lexFrom, scan, Token.state, Scan.finish,
            Token.pending]
      | number _ | quoted _ | literal _ | sign _ | blank
      | line _ => rfl
  | cons token tokens ih =>
      rw [areSpaced, Bool.and_eq_true, Bool.and_eq_true]
        at hSpaced
      rcases hSpaced with ⟨⟨hSound, hNext⟩, hSpaced⟩
      have hLoose :
          before.isTight = true → token.isTight = false := by
        intro hTight
        simpa [startLoose] using hApart hTight
      have hTight :
          token.isTight = true → startLoose tokens = true := by
        intro hTight
        simpa [hTight] using hNext
      have hWhole :=
        lexFrom_append (scan_chars_behind hSound hLoose)
          (ih token hTight hSpaced)
      rw [List.append_assoc, ← List.append_assoc token.ended,
        token.ended_append_pending] at hWhole
      rw [List.flatMap_cons, hWhole, lexemes_cons]

/- The text of spaced tokens is read as their lexemes. -/
theorem lex_textOf
    {tokens : List Token}
    (hSpaced : areSpaced tokens = true) :
    lex (Token.textOf tokens) = some (lexemes tokens) := by
  rw [lex, Token.textOf, String.toList_ofList]
  exact lexFrom_flatMap_chars .blank nofun hSpaced

end Source

end TextMate
