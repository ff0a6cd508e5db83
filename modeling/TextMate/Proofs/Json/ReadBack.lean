import TextMate.Json.Reader
import TextMate.Proofs.Json.ReadNumber
import TextMate.Proofs.Json.Within

/-
  This file proves that a value is read back from its broad
  form, within the limit on nesting.

  A container is read member by member: what comes next is
  found behind blanks and a comma, and the member that is read
  leaves the text of the members behind it.

  Main declarations:
    * `Json.nextItem_first`, `Json.nextItem_comma`
    * `Json.nextKey_first`, `Json.nextKey_comma`
    * `Json.isRead_of_within`
    * `Json.readObject_broad`
-/

namespace TextMate

namespace Json

/- A run of blanks. -/
def AreBlank
    (blanks : List Char) : Prop :=
  ∀ c ∈ blanks, isBlank c = true

theorem areBlank_nil : AreBlank [] := by
  intro c hMember
  cases hMember

theorem areBlank_space : AreBlank [' '] := by
  intro c hMember
  rw [List.mem_singleton.mp hMember]
  rfl

/- The start of a line is blank. -/
theorem areBlank_newLine
    (level : Nat) :
    AreBlank (newLine level) := by
  intro c hMember
  rcases List.mem_cons.mp hMember with rfl | hTab
  · rfl
  · rw [List.eq_of_mem_replicate hTab]
    rfl

------------------------------------------------------------
-- What Comes Next
------------------------------------------------------------

section Next

variable {blanks : List Char}

/- The end of an array is found behind blanks. -/
theorem nextItem_close
    (hBlanks : AreBlank blanks)
    (first : Bool)
    (rest : List Char) :
    ∃ hRest,
      nextItem first (blanks ++ ']' :: rest) =
        .ok (.close ⟨rest, hRest⟩) := by
  refine ⟨by rw [List.length_append, List.length_cons]; omega,
    ?_⟩
  rw [nextItem, skipBlanks_append blanks hBlanks (by decide)]
  rfl

/- The first item of an array is found behind blanks. -/
theorem nextItem_first
    (hBlanks : AreBlank blanks)
    {c : Char}
    (hStart : isBlank c = false)
    (hOpen : c ≠ ']')
    (text : List Char) :
    ∃ hRest,
      nextItem true (blanks ++ c :: text) =
        .ok (.item ⟨c :: text, hRest⟩) := by
  refine ⟨by rw [List.length_append]; omega, ?_⟩
  rw [nextItem, skipBlanks_append blanks hBlanks hStart]
  simp only [hOpen, if_false, if_true]

/- A further item of an array is found behind a comma. -/
theorem nextItem_comma
    (hBlanks : AreBlank blanks)
    {c : Char}
    (hStart : isBlank c = false)
    (hOpen : c ≠ ']')
    (text : List Char) :
    ∃ hRest,
      nextItem false (',' :: (blanks ++ c :: text)) =
        .ok (.item ⟨c :: text, hRest⟩) := by
  refine
    ⟨by simp only [List.length_cons, List.length_append]; omega,
      ?_⟩
  have hComma : ',' ≠ ']' := by decide
  rw [nextItem, skipBlanks_cons (by decide)]
  simp only [hComma, if_false, if_true, Bool.false_eq_true,
    skipBlanks_append blanks hBlanks hStart, hOpen]

/- The end of an object is found behind blanks. -/
theorem nextKey_close
    (hBlanks : AreBlank blanks)
    (first : Bool)
    (rest : List Char) :
    ∃ hRest,
      nextKey first (blanks ++ '}' :: rest) =
        .ok (.close ⟨rest, hRest⟩) := by
  refine ⟨by rw [List.length_append, List.length_cons]; omega,
    ?_⟩
  rw [nextKey, skipBlanks_append blanks hBlanks (by decide)]
  rfl

/- A key is read from its printed form. -/
theorem readKey_flatMap
    (key : String)
    (text : List Char) :
    ∃ hRest,
      readKey (key.toList.flatMap escapeChar ++ '"' :: text) =
        .ok (.key key ⟨text, hRest⟩) := by
  rcases readString_flatMap key.toList text with ⟨hRest, hRead⟩
  refine ⟨hRest, ?_⟩
  simp only [readKey, hRead, String.ofList_toList]

/- The first key of an object is found behind blanks. -/
theorem nextKey_first
    (hBlanks : AreBlank blanks)
    (key : String)
    (text : List Char) :
    ∃ hRest,
      nextKey true (blanks ++ (printString key ++ text)) =
        .ok (.key key ⟨text, hRest⟩) := by
  rw [printString, List.cons_append, List.append_assoc,
    List.singleton_append]
  rcases readKey_flatMap key text with ⟨hRest, hRead⟩
  refine
    ⟨by simp only [List.length_append, List.length_cons]; omega,
      ?_⟩
  have hOpen : '"' ≠ '}' := by decide
  rw [nextKey, skipBlanks_append blanks hBlanks (by decide)]
  simp only [hOpen, if_false, if_true, hRead]
  rfl

/- A further key of an object is found behind a comma. -/
theorem nextKey_comma
    (hBlanks : AreBlank blanks)
    (key : String)
    (text : List Char) :
    ∃ hRest,
      nextKey false
          (',' :: (blanks ++ (printString key ++ text))) =
        .ok (.key key ⟨text, hRest⟩) := by
  rw [printString, List.cons_append, List.append_assoc,
    List.singleton_append]
  rcases readKey_flatMap key text with ⟨hRest, hRead⟩
  refine
    ⟨by simp only [List.length_append, List.length_cons]; omega,
      ?_⟩
  have hComma : ',' ≠ '}' := by decide
  rw [nextKey, skipBlanks_cons (by decide)]
  simp only [hComma, if_false, if_true, Bool.false_eq_true,
    skipBlanks_append blanks hBlanks
      (by decide : isBlank '"' = false), hRead]
  rfl

end Next

/- A colon follows a key at once. -/
theorem readColon_colon
    (text : List Char) :
    ∃ hRest, readColon (':' :: text) = .ok ⟨text, hRest⟩ := by
  refine ⟨by simp, ?_⟩
  rw [readColon, skipBlanks_cons (by decide)]
  rfl

------------------------------------------------------------
-- One Value
------------------------------------------------------------

section Value

variable {blanks : List Char}

/- A scalar is read behind blanks. -/
theorem readValue_scalar
    (hBlanks : AreBlank blanks)
    (depth : Nat)
    {c : Char}
    (hStart : isBlank c = false)
    {scalar : Scalar}
    {text rest : List Char}
    (hScalar :
      ∃ hRest,
        readScalar? c text =
          some (.ok (scalar, ⟨rest, hRest⟩))) :
    Reads (readValue depth) (blanks ++ c :: text)
      scalar.value rest := by
  rcases hScalar with ⟨hRest, hRead⟩
  refine
    ⟨by rw [List.length_append]; omega, ?_⟩
  rw [readValue, skipBlanks_append blanks hBlanks hStart]
  simp only [hRead]

/- An array is read behind blanks if its items are. -/
theorem readValue_array
    (hBlanks : AreBlank blanks)
    {depth : Nat}
    (hDepth : 1 < depth)
    {items : List Value}
    {text rest : List Char}
    (hItems : Reads (readItems (depth - 1) true) text items rest) :
    Reads (readValue depth) (blanks ++ '[' :: text)
      (.array items) rest := by
  rcases hItems with ⟨hRest, hRead⟩
  refine
    ⟨by rw [List.length_append, List.length_cons]; omega, ?_⟩
  have hScalar : readScalar? '[' text = none := rfl
  have hLevel : ¬depth ≤ 1 := by omega
  rw [readValue, skipBlanks_append blanks hBlanks (by decide)]
  simp only [hScalar, if_true, hLevel, if_false, hRead]

/- An object is read behind blanks if its members are. -/
theorem readValue_object
    (hBlanks : AreBlank blanks)
    {depth : Nat}
    (hDepth : 1 < depth)
    {members : Object}
    {text rest : List Char}
    (hMembers :
      Reads (readFields (depth - 1) true []) text members rest) :
    Reads (readValue depth) (blanks ++ '{' :: text)
      (.object members) rest := by
  rcases hMembers with ⟨hRest, hRead⟩
  refine
    ⟨by rw [List.length_append, List.length_cons]; omega, ?_⟩
  have hScalar : readScalar? '{' text = none := rfl
  have hOther : '{' ≠ '[' := by decide
  have hLevel : ¬depth ≤ 1 := by omega
  rw [readValue, skipBlanks_append blanks hBlanks (by decide)]
  simp only [hScalar, hOther, if_true, hLevel, if_false, hRead]

/- An object is read as such if its members are. -/
theorem readObject_of_fields
    (hBlanks : AreBlank blanks)
    {depth : Nat}
    (hDepth : 1 < depth)
    {members : Object}
    {text rest : List Char}
    (hMembers :
      Reads (readFields (depth - 1) true []) text members rest) :
    Reads (readObject depth) (blanks ++ '{' :: text) members
      rest := by
  rcases hMembers with ⟨hRest, hRead⟩
  refine
    ⟨by rw [List.length_append, List.length_cons]; omega, ?_⟩
  have hLevel : ¬depth ≤ 1 := by omega
  rw [readObject, skipBlanks_append blanks hBlanks (by decide)]
  simp only [if_true, hLevel, if_false, hRead]

end Value

------------------------------------------------------------
-- Members in Order
------------------------------------------------------------

/- Nothing is left to read at the end of an array. -/
theorem readItems_close
    {blanks : List Char}
    (hBlanks : AreBlank blanks)
    (depth : Nat)
    (first : Bool)
    (rest : List Char) :
    Reads (readItems depth first) (blanks ++ ']' :: rest) []
      rest := by
  rcases nextItem_close hBlanks first rest with ⟨hRest, hNext⟩
  refine ⟨hRest, ?_⟩
  rw [readItems, hNext]

/- An item is read, and then those behind it. -/
theorem readItems_item
    {depth : Nat}
    {first : Bool}
    {text start next rest : List Char}
    {item : Value}
    {items : List Value}
    (hNext :
      ∃ hStart,
        nextItem first text = .ok (.item ⟨start, hStart⟩))
    (hItem : Reads (readValue depth) start item next)
    (hItems : Reads (readItems depth false) next items rest) :
    Reads (readItems depth first) text (item :: items) rest := by
  rcases hNext with ⟨hStart, hNext⟩
  rcases hItem with ⟨hShorter, hItem⟩
  rcases hItems with ⟨hRest, hItems⟩
  refine ⟨by omega, ?_⟩
  rw [readItems, hNext]
  simp only [hItem, hItems]

/- Nothing is left to read at the end of an object. -/
theorem readFields_close
    {blanks : List Char}
    (hBlanks : AreBlank blanks)
    (depth : Nat)
    (first : Bool)
    (before : Object)
    (rest : List Char) :
    Reads (readFields depth first before)
      (blanks ++ '}' :: rest) before rest := by
  rcases nextKey_close hBlanks first rest with ⟨hRest, hNext⟩
  refine ⟨hRest, ?_⟩
  rw [readFields, hNext]

/- A member is read, and then those behind it. -/
theorem readFields_member
    {depth : Nat}
    {first : Bool}
    {before members : Object}
    {text start next rest : List Char}
    {key : String}
    {value : Value}
    (hNext :
      ∃ hStart,
        nextKey first text =
          .ok (.key key ⟨':' :: start, hStart⟩))
    (hValue : Reads (readValue depth) start value next)
    (hMembers :
      Reads (readFields depth false (before.insert key value))
        next members rest) :
    Reads (readFields depth first before) text members rest := by
  rcases hNext with ⟨hStart, hNext⟩
  rcases readColon_colon start with ⟨hColon, hReadColon⟩
  rcases hValue with ⟨hShorter, hValue⟩
  rcases hMembers with ⟨hRest, hMembers⟩
  refine ⟨by omega, ?_⟩
  rw [readFields, hNext]
  simp only [hReadColon, hValue, hMembers]

------------------------------------------------------------
-- Scalars
------------------------------------------------------------

/- The printed form of a value starts neither blank nor closed. -/
def StartsValue
    (text : List Char) : Prop :=
  ∃ c rest, text = c :: rest ∧ isBlank c = false ∧ c ≠ ']'

/- A value is read back from its broad form. -/
def IsRead
    (depth : Nat)
    (value : Value) : Prop :=
  ∀ level, StartsValue (broad value level) ∧
    ∀ blanks rest, AreBlank blanks → EndsNumber rest →
      Reads (readValue depth)
        (blanks ++ (broad value level ++ rest)) value rest

/- A word is read from its letters. -/
theorem expectWord_append
    (word rest : List Char) :
    ∃ hRest, expectWord word (word ++ rest) = .ok ⟨rest, hRest⟩ := by
  induction word with
  | nil => exact ⟨Nat.le_refl _, by simp [expectWord]⟩
  | cons c word ih =>
      rcases ih with ⟨hRest, hWord⟩
      have hLonger : rest.length ≤ (c :: (word ++ rest)).length := by
        rw [List.length_cons]
        omega
      refine ⟨hLonger, ?_⟩
      show expectWord (c :: word) (c :: (word ++ rest)) = _
      simp only [expectWord, if_true, hWord]

/- A value that is read as a scalar is read back. -/
theorem isRead_scalar
    (depth : Nat)
    (scalar : Scalar)
    {c : Char}
    {text : List Char}
    (hBroad : ∀ level, broad scalar.value level = c :: text)
    (hBlank : isBlank c = false)
    (hOpen : c ≠ ']')
    (hScalar :
      ∀ rest, EndsNumber rest → ∃ hRest,
        readScalar? c (text ++ rest) =
          some (.ok (scalar, ⟨rest, hRest⟩))) :
    IsRead depth scalar.value := by
  intro level
  refine ⟨⟨_, _, hBroad level, hBlank, hOpen⟩, ?_⟩
  intro blanks rest hBlanks hEnd
  rw [hBroad, List.cons_append]
  exact
    readValue_scalar hBlanks depth hBlank (hScalar rest hEnd)

/- A scalar that is printed as a word is read. -/
theorem readScalar?_word
    {scalar : Scalar}
    {c : Char}
    {word : List Char}
    (hScalar :
      ∀ text,
        readScalar? c text =
          some
            ((readWord word scalar text).map fun result =>
              (result.1, Rest.ofTail c result.2)))
    (rest : List Char) :
    ∃ hRest,
      readScalar? c (word ++ rest) =
        some (.ok (scalar, ⟨rest, hRest⟩)) := by
  rcases expectWord_append word rest with ⟨hRest, hWord⟩
  refine ⟨by rw [List.length_cons]; omega, ?_⟩
  rw [hScalar, readWord, hWord]
  rfl

theorem isRead_null
    (depth : Nat) :
    IsRead depth .null :=
  isRead_scalar depth .null (fun _ => rfl) (by decide)
    (by decide)
    fun rest _ => readScalar?_word (fun _ => rfl) rest

theorem isRead_bool
    (depth : Nat)
    (value : Bool) :
    IsRead depth (.bool value) := by
  cases value with
  | true =>
      exact
        isRead_scalar depth (.bool true) (fun _ => rfl)
          (by decide) (by decide)
          fun rest _ => readScalar?_word (fun _ => rfl) rest
  | false =>
      exact
        isRead_scalar depth (.bool false) (fun _ => rfl)
          (by decide) (by decide)
          fun rest _ => readScalar?_word (fun _ => rfl) rest

/- A string is read behind its opening quote. -/
theorem readScalar?_quote
    (text : List Char) :
    readScalar? '"' text =
      some
        ((readString text).map fun result =>
          (.string (String.ofList result.1),
            Rest.extend '"' result.2)) := by
  show some (Except.map _ (Except.map _ (Except.map _
    (readString text)))) = _
  cases readString text <;> rfl

theorem isRead_string
    (depth : Nat)
    (value : String) :
    IsRead depth (.string value) := by
  refine
    isRead_scalar depth (.string value) (fun _ => rfl)
      (by decide) (by decide) ?_
  intro rest _
  rw [List.append_assoc, List.singleton_append]
  rcases readString_flatMap value.toList rest with
    ⟨hRest, hRead⟩
  refine ⟨by rw [List.length_cons]; omega, ?_⟩
  rw [readScalar?_quote, hRead]
  simp only [Except.map, String.ofList_toList, Rest.extend]

/- A number without a sign is read with its first digit. -/
theorem readScalar?_digit
    {c : Char}
    (hDigit : Text.isDigit c = true)
    (text : List Char) :
    readScalar? c text =
      some
        ((readNumber false (c :: text)).map fun result =>
          (.number result.1, result.2)) := by
  rw [readScalar?, if_neg (Text.ne_of_isDigit hDigit rfl),
    if_neg (Text.ne_of_isDigit hDigit rfl),
    if_neg (Text.ne_of_isDigit hDigit rfl),
    if_neg (Text.ne_of_isDigit hDigit rfl), if_pos hDigit]

/- A number with a sign is read behind it. -/
theorem readScalar?_minus
    (text : List Char) :
    readScalar? '-' text =
      some
        ((readNumber true text).map fun result =>
          (.number result.1, Rest.extend '-' result.2)) := by
  show some (Except.map _ (Except.map _ (Except.map _
    (readNumber true text)))) = _
  cases readNumber true text <;> rfl

/- A digit is no blank. -/
theorem isBlank_of_isDigit
    {c : Char}
    (hDigit : Text.isDigit c = true) :
    isBlank c = false := by
  have hOther :
      ∀ d, Text.isDigit d = false → (c == d) = false :=
    fun d hNone =>
      beq_false_of_ne (Text.ne_of_isDigit hDigit hNone)
  rw [isBlank, hOther ' ' rfl, hOther '\n' rfl,
    hOther '\t' rfl, hOther '\r' rfl]
  rfl

/- A natural number of 64 bits is read back. -/
theorem isRead_ofNat
    (depth : Nat)
    {n : Nat}
    (hBound : n ≤ maxSignificand) :
    IsRead depth (.number (.integer n)) := by
  have hText : (toString n).toList = Nat.toDigits 10 n := by
    rw [Nat.toString_eq_repr, Nat.toList_repr]
  cases hDigits : Nat.toDigits 10 n with
  | nil => exact absurd hDigits Nat.toDigits_ne_nil
  | cons c digits =>
      have hDigit : Text.isDigit c = true :=
        Text.isDigit_of_mem_toDigits
          (hDigits ▸ List.mem_cons_self)
      refine
        isRead_scalar depth (.number (.integer n))
          (fun _ => hText.trans hDigits)
          (isBlank_of_isDigit hDigit)
          (Text.ne_of_isDigit hDigit rfl) ?_
      intro rest hEnd
      have hReads := readNumber_toDigits false hBound hEnd
      rw [hDigits, List.cons_append] at hReads
      rcases hReads with ⟨hRest, hRead⟩
      refine ⟨hRest, ?_⟩
      rw [readScalar?_digit hDigit, hRead]
      rfl

/- A negative number of 64 bits is read back. -/
theorem isRead_negSucc
    (depth : Nat)
    {n : Nat}
    (hBound : n + 1 ≤ Nat.pow 2 63) :
    IsRead depth (.number (.integer (.negSucc n))) := by
  have hLess : n + 1 ≤ 2 ^ 63 := hBound
  have hText :
      ("-" ++ toString (n + 1)).toList =
        '-' :: Nat.toDigits 10 (n + 1) := by
    rw [String.toList_append, Nat.toString_eq_repr,
      Nat.toList_repr]
    rfl
  refine
    isRead_scalar depth (.number (.integer (.negSucc n)))
      (fun _ => hText) (by decide) (by decide) ?_
  intro rest hEnd
  have hSize : maxSignificand = 2 ^ 64 - 1 := rfl
  have hInteger :
      integerNumber true (n + 1) = .integer (.negSucc n) := by
    have hWord : ¬(n + 1 = 0 ∨ Nat.pow 2 63 < n + 1) := by
      show ¬(n + 1 = 0 ∨ 2 ^ 63 < n + 1)
      omega
    rw [integerNumber, if_pos rfl, if_neg hWord]
    rfl
  rcases readNumber_toDigits true
      (by omega : n + 1 ≤ maxSignificand) hEnd with
    ⟨hRest, hRead⟩
  refine ⟨by rw [List.length_cons]; omega, ?_⟩
  rw [readScalar?_minus, hRead, hInteger]
  rfl

/- An integer of 64 bits is read back. -/
theorem isRead_number
    (depth : Nat)
    {value : Number}
    (hWord : value.IsWord) :
    IsRead depth (.number value) := by
  cases value with
  | double value => exact hWord.elim
  | integer value =>
      cases value with
      | ofNat n =>
          have hBound : n ≤ maxSignificand := by
            have hLess : (n : Int) < 2 ^ 64 := hWord.2
            have hSize : maxSignificand = 2 ^ 64 - 1 := rfl
            omega
          exact isRead_ofNat depth hBound
      | negSucc n =>
          have hBound : n + 1 ≤ 2 ^ 63 := by
            have hLeast : -2 ^ 63 ≤ Int.negSucc n := hWord.1
            omega
          exact isRead_negSucc depth hBound

------------------------------------------------------------
-- Containers
------------------------------------------------------------

/- A number ends before what follows an item. -/
theorem endsNumber_broadItems
    (items : List Value)
    (level : Nat)
    (rest : List Char) :
    EndsNumber (broadItems items level ++ rest) := by
  cases items <;> exact ⟨rfl, rfl⟩

/- A number ends before what follows a member. -/
theorem endsNumber_broadFields
    (members : Object)
    (level : Nat)
    (rest : List Char) :
    EndsNumber (broadFields members level ++ rest) := by
  cases members <;> exact ⟨rfl, rfl⟩

/- The further items of an array are read back. -/
theorem readItems_broadItems
    {depth : Nat}
    {items : List Value}
    (hItems : ∀ item ∈ items, IsRead depth item)
    (level : Nat)
    (rest : List Char) :
    Reads (readItems depth false)
      (broadItems items level ++ rest) items rest := by
  induction items with
  | nil =>
      rw [broadItems, List.append_assoc, List.singleton_append]
      exact
        readItems_close (areBlank_newLine level) depth false rest
  | cons item items ih =>
      have hItem := hItems item List.mem_cons_self (level + 1)
      have hRest :=
        ih fun other hOther =>
          hItems other (List.mem_cons_of_mem _ hOther)
      have hRead :=
        hItem.2 [] (broadItems items level ++ rest) areBlank_nil
          (endsNumber_broadItems items level rest)
      rcases hItem.1 with ⟨c, text, hText, hBlank, hOpen⟩
      rw [broadItems, List.cons_append, List.append_assoc,
        List.append_assoc]
      rw [List.nil_append, hText, List.cons_append] at hRead
      rw [hText, List.cons_append]
      exact
        readItems_item
          (nextItem_comma (areBlank_newLine _) hBlank hOpen _)
          hRead hRest

/- An array is read back if its items are. -/
theorem isRead_array
    {depth : Nat}
    (hDepth : 1 < depth)
    {items : List Value}
    (hItems : ∀ item ∈ items, IsRead (depth - 1) item) :
    IsRead depth (.array items) := by
  intro level
  cases items with
  | nil =>
      refine ⟨⟨_, _, rfl, by decide, by decide⟩, ?_⟩
      intro blanks rest hBlanks _
      exact
        readValue_array hBlanks hDepth
          (readItems_close areBlank_nil (depth - 1) true rest)
  | cons item items =>
      refine ⟨⟨_, _, rfl, by decide, by decide⟩, ?_⟩
      intro blanks rest hBlanks _
      have hItem := hItems item List.mem_cons_self (level + 1)
      have hRest :=
        readItems_broadItems
          (fun other hOther =>
            hItems other (List.mem_cons_of_mem _ hOther))
          level rest
      have hRead :=
        hItem.2 [] (broadItems items level ++ rest) areBlank_nil
          (endsNumber_broadItems items level rest)
      rcases hItem.1 with ⟨c, text, hText, hBlank, hOpen⟩
      rw [broad, List.cons_append, List.append_assoc,
        List.append_assoc]
      rw [List.nil_append, hText, List.cons_append] at hRead
      rw [hText, List.cons_append]
      exact
        readValue_array hBlanks hDepth
          (readItems_item
            (nextItem_first (areBlank_newLine _) hBlank hOpen _)
            hRead hRest)

/- The further members of an object are read back. -/
theorem readFields_broadFields
    {depth : Nat}
    {members : Object}
    (hMembers : ∀ member ∈ members, IsRead depth member.2)
    (before : Object)
    (hKeys : (before.keys ++ members.keys).Nodup)
    (level : Nat)
    (rest : List Char) :
    Reads (readFields depth false before)
      (broadFields members level ++ rest) (before ++ members)
      rest := by
  induction members generalizing before with
  | nil =>
      rw [broadFields, List.append_assoc, List.singleton_append,
        List.append_nil]
      exact
        readFields_close (areBlank_newLine level) depth false
          before rest
  | cons member members ih =>
      rcases member with ⟨key, value⟩
      have hNew : key ∉ before.keys := fun hOld =>
        (List.nodup_append.mp hKeys).2.2 _ hOld _
          List.mem_cons_self rfl
      have hInsert :
          before.insert key value = before ++ [(key, value)] :=
        Object.insert_of_not_mem hNew value
      have hDistinct :
          ((before.insert key value).keys ++
            Object.keys members).Nodup := by
        rw [hInsert, Object.keys, List.map_append,
          List.append_assoc]
        exact hKeys
      have hRest :=
        ih (fun other hOther =>
            hMembers other (List.mem_cons_of_mem _ hOther))
          (before.insert key value) hDistinct
      rw [hInsert, List.append_assoc, List.singleton_append,
        ← hInsert] at hRest
      have hRead :=
        (hMembers _ List.mem_cons_self (level + 1)).2 [' ']
          (broadFields members level ++ rest) areBlank_space
          (endsNumber_broadFields members level rest)
      rw [broadFields, List.cons_append, List.append_assoc,
        List.append_assoc, List.append_assoc]
      exact
        readFields_member
          (nextKey_comma (areBlank_newLine _) key _) hRead hRest

/- The members of an object are read back. -/
theorem readFields_object
    {depth : Nat}
    {members : Object}
    (hMembers : ∀ member ∈ members, IsRead depth member.2)
    (hKeys : members.keys.Nodup)
    (level : Nat)
    (rest : List Char) :
    ∃ text,
      broad (.object members) level = '{' :: text ∧
        Reads (readFields depth true []) (text ++ rest) members
          rest := by
  cases members with
  | nil =>
      exact
        ⟨['}'], rfl,
          readFields_close areBlank_nil depth true [] rest⟩
  | cons member members =>
      rcases member with ⟨key, value⟩
      refine ⟨_, rfl, ?_⟩
      have hRest :=
        readFields_broadFields
          (fun other hOther =>
            hMembers other (List.mem_cons_of_mem _ hOther))
          [(key, value)] hKeys level rest
      have hRead :=
        (hMembers _ List.mem_cons_self (level + 1)).2 [' ']
          (broadFields members level ++ rest) areBlank_space
          (endsNumber_broadFields members level rest)
      rw [List.append_assoc, List.append_assoc,
        List.append_assoc]
      exact
        readFields_member
          (nextKey_first (areBlank_newLine _) key _) hRead hRest

/- A value within the depth is read back. -/
theorem isRead_of_within
    {depth : Nat}
    {value : Value}
    (hWithin : value.Within Number.IsWord depth) :
    IsRead depth value := by
  induction value using Value.induction generalizing depth with
  | null => exact isRead_null depth
  | bool value => exact isRead_bool depth value
  | number value =>
      cases hWithin with
      | number hWord => exact isRead_number depth hWord
  | string value => exact isRead_string depth value
  | array items ih =>
      rcases Value.Within.array_iff.mp hWithin with
        ⟨hDepth, hItems⟩
      exact
        isRead_array hDepth fun item hItem =>
          ih item hItem (hItems item hItem)
  | object members ih =>
      rcases Value.Within.object_iff.mp hWithin with
        ⟨hDepth, hKeys, hMembers⟩
      have hInner :
          ∀ member ∈ members, IsRead (depth - 1) member.2 :=
        fun member hMember =>
          ih member hMember (hMembers member hMember)
      intro level
      rcases readFields_object hInner hKeys level [] with
        ⟨text, hText, -⟩
      refine ⟨⟨_, _, hText, by decide, by decide⟩, ?_⟩
      intro blanks rest hBlanks _
      rcases readFields_object hInner hKeys level rest with
        ⟨text, hText, hRead⟩
      rw [hText, List.cons_append]
      exact readValue_object hBlanks hDepth hRead

/- An object within the depth is read back as such. -/
theorem readObject_broad
    {depth : Nat}
    {members : Object}
    (hWithin : (Value.object members).Within Number.IsWord depth)
    {blanks : List Char}
    (hBlanks : AreBlank blanks)
    (level : Nat)
    (rest : List Char) :
    Reads (readObject depth)
      (blanks ++ (broad (.object members) level ++ rest)) members
      rest := by
  rcases Value.Within.object_iff.mp hWithin with
    ⟨hDepth, hKeys, hMembers⟩
  rcases readFields_object
      (fun member hMember =>
        isRead_of_within (hMembers member hMember))
      hKeys level rest with
    ⟨text, hText, hRead⟩
  rw [hText, List.cons_append]
  exact readObject_of_fields hBlanks hDepth hRead

end Json

end TextMate
