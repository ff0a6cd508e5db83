import TextMate.Oniguruma.Callout
import TextMate.Oniguruma.Token

/-
  This file defines how the structure of a pattern is read.

  Every reader takes the token it starts with and returns the
  token that comes after what it read.  The head of a body that
  may be a choice is its first item: a group there is kept as
  an item of its own, so that its choice stays inside it.

  Key definitions include:
    * `Options`
    * `readBranches`
    * `readItem`
    * `readGroup`
    * `Parsed`
    * `parse`
-/

namespace TextMate

namespace Oniguruma

open Text (isDigit)

------------------------------------------------------------
-- Options
------------------------------------------------------------

/- The options that change how a pattern is read. -/
structure Options where
  extended : Bool
  capturing : Bool
  foldCase : Bool
deriving DecidableEq

def Options.start : Options :=
  ⟨false, true, false⟩

/-
  The options that a group sets, and whether they are for the
  group's own body or for what follows it.
-/
structure OptionGroup where
  options : Options
  hasBody : Bool
  isWhole : Bool

/- The options that only a whole pattern can have. -/
def isWholeOption
    (c : Char) : Bool :=
  c == 'C' || c == 'I' || c == 'L'

def isOptionLetter
    (c : Char) : Bool :=
  "-imxWDSPy".toList.contains c || isWholeOption c

def readSegmentUnit :
    List Char → Except Refusal (List Char)
  | [] => .error .endInGroup
  | '{' :: [] => .error .endInGroup
  | '{' :: c :: rest =>
      if c = 'g' || c = 'w' then
        match rest with
        | [] => .error .endInGroup
        | '}' :: rest => .ok rest
        | _ => .error .undefinedGroupOption
      else .error .undefinedGroupOption
  | _ => .error .undefinedGroupOption

def readOptions
    (clears isWhole : Bool)
    (options : Options) :
    (fuel : Nat) →
    List Char →
    Except Refusal (OptionGroup × List Char)
  | 0, _ => .error .endInGroup
  | _, [] => .error .endInGroup
  | fuel + 1, c :: rest =>
      if c = ')' then
        .ok (⟨options, false, isWhole⟩, rest)
      else if c = ':' then
        .ok (⟨options, true, isWhole⟩, rest)
      else if c = '-' then
        readOptions true isWhole options fuel rest
      else if c = 'x' then
        readOptions clears isWhole
          { options with extended := !clears } fuel rest
      else if c = 'i' then
        readOptions clears isWhole
          { options with foldCase := !clears } fuel rest
      else if c = 'y' then
        if clears then .error .undefinedGroupOption
        else
          (readSegmentUnit rest).bind
            (readOptions clears isWhole options fuel)
      else if isWholeOption c then
        if clears then .error .invalidGroupOption
        else
          let capturing := options.capturing && c != 'C'
          readOptions clears true
            { options with capturing := capturing } fuel rest
      else if isOptionLetter c then
        readOptions clears isWhole options fuel rest
      else .error .undefinedGroupOption

------------------------------------------------------------
-- Groups
------------------------------------------------------------

/- What an opening parenthesis starts. -/
inductive Opening where
  | capture
  | noncapture
  | look (look : Look)
  | atomic
  | absent
  | named (mark : Char)
  | conditional
  | contents
  | callout
  | options
deriving DecidableEq

/-
  Find what starts after an opening parenthesis, and the text
  after its marks.
-/
def readOpening :
    List Char → Except Refusal (Opening × List Char)
  | [] => .error .unclosedParenthesis
  | '?' :: [] => .error .endInGroup
  | '?' :: ':' :: rest => .ok (.noncapture, rest)
  | '?' :: '=' :: rest => .ok (.look .ahead, rest)
  | '?' :: '!' :: rest => .ok (.look .notAhead, rest)
  | '?' :: '>' :: rest => .ok (.atomic, rest)
  | '?' :: '~' :: rest => .ok (.absent, rest)
  | '?' :: '\'' :: rest => .ok (.named '\'', rest)
  | '?' :: '<' :: [] => .error .unclosedParenthesis
  | '?' :: '<' :: '=' :: rest => .ok (.look .behind, rest)
  | '?' :: '<' :: '!' :: rest => .ok (.look .notBehind, rest)
  | '?' :: '<' :: rest => .ok (.named '<', rest)
  | '?' :: '(' :: rest => .ok (.conditional, rest)
  | '?' :: '{' :: rest => .ok (.contents, rest)
  | '?' :: c :: rest =>
      if isOptionLetter c then .ok (.options, c :: rest)
      else .error .undefinedGroupOption
  | '*' :: rest => .ok (.callout, rest)
  | rest => .ok (.capture, rest)

def openGroup : Scanner Nat := do
  let scan ← get
  set { scan with groups := scan.groups + 1 }
  return scan.groups + 1

/- Note that a group is closed. -/
def closeGroup
    (group : Nat) : Scanner Unit :=
  modify fun scan =>
    { scan with closed := group :: scan.closed }

def openNamedGroup
    (mark : Char)
    (text : List Char) : Scanner Nat := do
  let name ← readGroupName (closingMark mark) false text
  Scanner.setRest name.rest
  let group ← openGroup
  modify fun scan =>
    { scan with names := scan.names ++ [(name.text, group)] }
  return group

/-
  Make a reference.  It is inside a group that it names when
  that group is open.
-/
def makeReference
    (groups : List Nat)
    (byName isTest : Bool) : Scanner Node := do
  let scan ← get
  let isOpen (group : Nat) : Bool :=
    group ≤ scan.groups && !scan.closed.contains group
  return .reference groups byName isTest (groups.any isOpen)

def noteCallout
    (callout : Callout) : Scanner Node := do
  let scan ← get
  match callout.tag with
  | some tag =>
      if scan.tags.contains tag then
        throw (.repeatedCalloutTag tag)
  | none => pure ()
  set { scan with
    rest := callout.rest
    tags := scan.tags ++ callout.tag.toList
    usedTags := scan.usedTags ++ callout.uses }
  return .directive .plain

/- Note that a group has options for the whole pattern. -/
def noteWhole : Scanner Unit := do
  let scan ← get
  if scan.hasWhole then throw .invalidGroupOption
  set { scan with hasWhole := true }

/- The token stands for the end of a group or a pattern. -/
def endsBranches
    (closing : Bool)
    (token : Token) : Bool :=
  if closing then token == .closing else token == .finish

------------------------------------------------------------
-- Conditions
------------------------------------------------------------

/-
  How a condition may be written: as a test of a group, as a
  callout, or as a pattern that is still to be read.
-/
inductive Condition where
  | test (node : Node)
  | callout (node : Node)
  | pattern

/-
  Read a condition that asks for the match of a group, or is a
  callout.  Any other condition is a pattern.
-/
def readCondition
    (text : List Char) : Scanner Condition := do
  match text with
  | [] => throw .endInGroup
  | [_] => throw .endInGroup
  | c :: rest =>
      if c = '<' || c = '\'' then
        let group ← readReferenceName (closingMark c) rest
        let (groups, byName) ← resolveReference group
        match group.rest with
        | ')' :: rest =>
            Scanner.setRest rest
            return .test (← makeReference groups byName true)
        | _ => throw .endInGroup
      else if isDigit c || c = '-' || c = '+' then
        match readReferenceName ')' text with
        | .error _ => return .pattern
        | .ok group =>
            let (groups, byName) ← resolveReference group
            Scanner.setRest group.rest
            return .test (← makeReference groups byName true)
      else if c = '*' then
        return .callout
          (← noteCallout (← readNamedCallout rest))
      else if c = '?' && rest.head? = some '{' then
        return .callout
          (← noteCallout (← readContents (rest.drop 1)))
      else return .pattern

/- The choice that a condition makes between branches. -/
def makeConditional
    (condition body : Node)
    (noFirst : Bool) : Node :=
  if noFirst then .conditional condition .empty body
  else
    match body with
    | .alternatives (yes :: no) =>
        .conditional condition yes (Node.ofBranches no)
    | body => .conditional condition body .empty

------------------------------------------------------------
-- Patterns
------------------------------------------------------------

/- Refuse a pattern that is nested too deep. -/
def checkDepth
    (depth : Nat) : Scanner Unit :=
  if maxDepth < depth then throw .nestedTooDeep else pure ()

/- Read the raw bytes of one character after the first. -/
def readTokenBytes
    (options : Options) :
    (missing : Nat) → Scanner (List Nat)
  | 0 => return []
  | missing + 1 => do
      match ← nextToken options.extended with
      | .byte value =>
          return value :: (← readTokenBytes options missing)
      | _ => throw .incompleteBytes

/- Read the characters of a text after its first one. -/
def readText
    (extended : Bool) :
    (fuel : Nat) → Scanner (List Letter × Token)
  | 0 => do return ([], ← nextToken extended)
  | fuel + 1 => do
      match ← nextToken extended with
      | .literal letter =>
          let (letters, token) ← readText extended fuel
          return (letter :: letters, token)
      | token => return ([], token)

/-
  Text that a part is absent from, or the range where it is.
  After a bar the first branch is the part, and the others are
  the form of the text.
-/
def makeAbsence
    (hasBar : Bool)
    (body : Node) : Node :=
  if hasBar then
    match body with
    | .alternatives (absent :: form) =>
        Node.absence absent (some (Node.ofBranches form))
    | body => Node.rangeCutter body
  else Node.absence body none

/-
  What a group gives: a part, which may be no more than its
  body, or options for what follows.
-/
inductive GroupResult where
  | node (node : Node) (isBody : Bool)
  | options (options : Options) (isWhole : Bool)

/-
  Read branches up to the end of a group or of the pattern.
-/
mutual

def readBranches :
    (fuel depth : Nat) →
    Options →
    (closing : Bool) →
    (isHead : Bool) →
    Token →
    Scanner (Node × Token)
  | 0, _, _, _, _, _ => throw .nestedTooDeep
  | fuel + 1, depth, options, closing, isHead, token => do
      checkDepth (depth + 1)
      let (first, token) ←
        readBranch fuel (depth + 1) options closing isHead token
      let (branches, token) ←
        readFurther fuel (depth + 1) options closing token
      if !endsBranches closing token then
        throw .unclosedParenthesis
      return (Node.ofBranches (first :: branches), token)
termination_by structural fuel => fuel

/- Read the branches after a bar. -/
def readFurther :
    (fuel depth : Nat) →
    Options →
    (closing : Bool) →
    Token →
    Scanner (List Node × Token)
  | 0, _, _, _, _ => throw .nestedTooDeep
  | fuel + 1, depth, options, closing, token => do
      if token ≠ .bar then return ([], token)
      let token ← nextToken options.extended
      let (branch, token) ←
        readBranch fuel depth options closing false token
      let (branches, token) ←
        readFurther fuel depth options closing token
      return (branch :: branches, token)
termination_by structural fuel => fuel

def readBranch :
    (fuel depth : Nat) →
    Options →
    (closing : Bool) →
    (isHead : Bool) →
    Token →
    Scanner (Node × Token)
  | 0, _, _, _, _, _ => throw .nestedTooDeep
  | fuel + 1, depth, options, closing, isHead, token => do
      checkDepth (depth + 1)
      let (items, token) ←
        readItems fuel (depth + 1) options closing isHead token
      if items.isEmpty then return (.empty, token)
      return (Node.ofItems (Node.spliced items), token)
termination_by structural fuel => fuel

def readItems :
    (fuel depth : Nat) →
    Options →
    (closing : Bool) →
    (isHead : Bool) →
    Token →
    Scanner (List Node × Token)
  | 0, _, _, _, _, _ => throw .nestedTooDeep
  | fuel + 1, depth, options, closing, isHead, token => do
      if token = .finish || token = .bar ||
          endsBranches closing token then
        return ([], token)
      let (item, token) ←
        readItem fuel depth options closing isHead token
      let (items, token) ←
        readItems fuel depth options closing false token
      return (item :: items, token)
termination_by structural fuel => fuel

def readItem :
    (fuel depth : Nat) →
    Options →
    (closing : Bool) →
    (isHead : Bool) →
    Token →
    Scanner (Node × Token)
  | 0, _, _, _, _, _ => throw .nestedTooDeep
  | fuel + 1, depth, options, closing, isHead, token => do
      let repeats (node : Node) : Scanner (Node × Token) := do
        readRepeats fuel depth options false node node
          (← nextToken options.extended)
      match token with
      | .finish | .bar => return (.empty, token)
      | .closing => throw .unmatchedParenthesis
      | .repeats _ _ => throw .nothingToRepeat
      | .opening =>
          match ← readGroup fuel depth options with
          | .node node isBody =>
              let whole :=
                if isHead && isBody then .sequence [node]
                else node
              readRepeats fuel depth options isBody whole node
                (← nextToken options.extended)
          | .options inner isWhole =>
              let token ← nextToken inner.extended
              let (body, token) ←
                readBranches fuel depth inner closing false
                  token
              return (.scoped isWhole body, token)
      | .literal first =>
          let length := (← Scanner.rest).length
          let (others, token) ←
            readText options.extended length
          let node : Node :=
            .text (first :: others) options.foldCase
          readRepeats fuel depth options false node node token
      | .set => repeats .set
      | .lineBreak => repeats Node.lineBreak
      | .segment => repeats Node.segment
      | .byte value =>
          let needed := sequenceLength value
          let more ← readTokenBytes options (needed - 1)
          if !areValidBytes (value :: more) then
            throw .invalidCodePoint
          let code := bytesCode (value :: more)
          repeats (.text [⟨code⟩] options.foldCase)
      | .codes values =>
          if values.any (fun code => !isCodePoint code) then
            throw .invalidCodePoint
          let nodes := values.map fun code =>
            Node.text [⟨code⟩] options.foldCase
          let (last, token) ←
            repeats (nodes.getLast?.getD .empty)
          return (Node.ofItems (nodes.dropLast ++ [last]), token)
      | .property =>
          Scanner.setRest (← readProperty (← Scanner.rest))
          repeats .set
      | .bracket =>
          Scanner.setRest (← readClass depth (← Scanner.rest))
          repeats .set
      | .anchor anchor => repeats (.anchor anchor)
      | .keep => repeats (.directive .plain)
      | .reference groups byName =>
          repeats (← makeReference groups byName false)
      | .call target =>
          modify fun scan =>
            { scan with calls := scan.calls + 1 }
          repeats (.call target)
termination_by structural fuel => fuel

/-
  Read the repeats after a part.  The first of them repeats
  the target, which may be the body of the part.  Of a text
  that is not the body of a group only the last letter is
  repeated.
-/
def readRepeats :
    (fuel depth : Nat) →
    Options →
    (isBody : Bool) →
    (node target : Node) →
    Token →
    Scanner (Node × Token)
  | 0, _, _, _, _, _, _ => throw .nestedTooDeep
  | fuel + 1, depth, options, isBody, node, target, token => do
      match token with
      | .repeats count isPossessive =>
          if node.refusesRepeat then throw .invalidRepeatTarget
          checkDepth (depth + 1)
          let split? :=
            if isBody || count.fixed? = some 1 then none
            else target.splitLast?
          let target := (split?.map Prod.snd).getD target
          let repeated ← target.applyRepeat count
          let node :=
            if isPossessive then .atomic repeated else repeated
          let (node, token) ←
            readRepeats fuel (depth + 1) options false node node
              (← nextToken options.extended)
          return match split? with
            | some (start, _) => (.sequence [start, node], token)
            | none => (node, token)
      | token => return (node, token)
termination_by structural fuel => fuel

def readBody :
    (fuel depth : Nat) →
    Options →
    (isHead : Bool) →
    Scanner Node
  | 0, _, _, _ => throw .nestedTooDeep
  | fuel + 1, depth, options, isHead => do
      let token ← nextToken options.extended
      let (node, _) ←
        readBranches fuel depth options true isHead token
      return node
termination_by structural fuel => fuel

/-
  Read a group after its opening parenthesis.  One with options
  and a body is for the whole pattern when such options were
  read by its end, in its body perhaps.
-/
def readGroup :
    (fuel depth : Nat) →
    Options →
    Scanner GroupResult
  | 0, _, _ => throw .nestedTooDeep
  | fuel + 1, depth, options => do
      let (opening, rest) ← readOpening (← Scanner.rest)
      Scanner.setRest rest
      let body := readBody fuel depth options false
      let headed := readBody fuel depth options true
      match opening with
      | .capture =>
          if !options.capturing then
            return .node (← body) true
          let number ← openGroup
          let body ← body
          closeGroup number
          return .node (.group number false body) false
      | .named mark =>
          let number ← openNamedGroup mark rest
          let body ← body
          closeGroup number
          return .node (.group number true body) false
      | .noncapture => return .node (← body) true
      | .look look => return .node (.look look (← body)) false
      | .atomic => return .node (.atomic (← body)) false
      | .absent =>
          match rest with
          | [] => throw .endInGroup
          | '|' :: [] => throw .endInGroup
          | '|' :: ')' :: rest =>
              Scanner.setRest rest
              return .node Node.rangeReset false
          | '|' :: rest =>
              Scanner.setRest rest
              return .node (makeAbsence true (← headed)) false
          | _ =>
              return .node (makeAbsence false (← headed)) false
      | .contents =>
          return .node (← noteCallout (← readContents rest))
            false
      | .callout =>
          return .node
            (← noteCallout (← readNamedCallout rest)) false
      | .options =>
          let (group, rest) ←
            readOptions false false options
              (rest.length + 1) rest
          Scanner.setRest rest
          if group.isWhole then noteWhole
          if group.hasBody then
            let body ← readBody fuel depth group.options false
            return .node (.scoped (← get).hasWhole body) false
          else return .options group.options group.isWhole
      | .conditional =>
          let (test, isTest) ←
            match ← readCondition rest with
            | .test node => pure (node, true)
            | .callout node => pure (node, false)
            | .pattern => pure (← body, false)
          match ← Scanner.rest with
          | [] => throw .endInGroup
          | ')' :: rest =>
              if !isTest then throw .invalidConditional
              Scanner.setRest rest
              return .node test false
          | '|' :: rest =>
              Scanner.setRest rest
              return .node
                (makeConditional test (← headed) true) false
          | _ =>
              return .node
                (makeConditional test (← headed) false) false
termination_by structural fuel => fuel

end

------------------------------------------------------------
-- Whole Patterns
------------------------------------------------------------

/- The structure of a pattern and what is known of its groups. -/
structure Parsed where
  root : Node
  groups : Nat
  names : List (List Char × Nat)
  calls : Nat

/-
  A pattern is all in a scope that has options for the whole
  of it.  `inRow` says that more items follow the part.
-/
def Node.isWholeScope
    (inRow : Bool)
    (node : Node) : Bool :=
  match node with
  | .scoped isWhole _ => isWhole && !inRow
  | .sequence (first :: rest) =>
      first.isWholeScope (inRow || !rest.isEmpty)
  | _ => false
termination_by node

/- Check what is known once a pattern was read. -/
def checkScan
    (root : Node)
    (scan : Scan) : Except Refusal Unit :=
  if scan.hasWhole && !root.isWholeScope false then
    .error .invalidGroupOption
  else if scan.usedTags.any (fun tag => !scan.tags.contains tag)
  then .error .invalidCalloutTag
  else .ok ()

/- Read the structure of a pattern. -/
def parse
    (text : List Char) : Except Refusal Parsed := do
  let read : Scanner (Node × Token) := do
    let token ← nextToken false
    readBranches (8 * text.length + 16) 0 Options.start false
      false token
  let ((root, _), scan) ← read.run (Scan.start text)
  checkScan root scan
  return ⟨root, scan.groups, scan.names, scan.calls⟩

end Oniguruma

end TextMate
