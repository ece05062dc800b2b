import LineExtraction.Linear.Reader.Escape

/-!
# Reading bracket classes

A bracket class holds characters, ranges, escapes, ASCII classes such as
`[:alpha:]`, further bracket classes, and the set operators `&&`, `--` and `~~`,
which bind to the left and weaker than juxtaposition.  The reader keeps a stack of
the classes and operators that wait for their right-hand side.
-/

namespace LineExtraction
namespace Linear

/-! ## ASCII classes -/

/-- The ASCII class of a name. -/
def asciiClassNamed? (name : List Char) : Option AsciiClass :=
  match String.ofList name with
  | "alnum" => some .alnum
  | "alpha" => some .alpha
  | "ascii" => some .ascii
  | "blank" => some .blank
  | "cntrl" => some .cntrl
  | "digit" => some .digit
  | "graph" => some .graph
  | "lower" => some .lower
  | "print" => some .print
  | "punct" => some .punct
  | "space" => some .space
  | "upper" => some .upper
  | "word" => some .word
  | "xdigit" => some .xdigit
  | _ => none

/-- Read the name of an ASCII class and the `:]` behind it. -/
def readAsciiName? (negated : Bool) (text : List Char) : Option (Read ClassSet text) :=
  have shorter := (List.dropWhile_sublist (· ≠ ':') (l := text)).length_le
  match _ : text.dropWhile (· ≠ ':') with
  | ':' :: ']' :: rest =>
    (asciiClassNamed? (text.takeWhile (· ≠ ':'))).map fun kind =>
      ⟨.ascii negated kind, rest, by simp_all only [List.length_cons]; omega⟩
  | _ => none

/-- Read an ASCII class from behind its opening bracket, if there is one. -/
def readAsciiClass? (text : List Char) : Option (Read ClassSet text) :=
  match text with
  | ':' :: '^' :: name =>
    (readAsciiName? true name).map fun read =>
      read.weaken (Read.took_two name)
  | ':' :: name => (readAsciiName? false name).map fun read => read.weaken (Read.took_one name)
  | _ => none

/-! ## Items and ranges -/

/-- The member that a primitive adds to a class.  An assertion is no member. -/
def Primitive.toMember : Primitive → Except SyntaxError ClassSet
  | .literal char => .ok (.literal char)
  | .perl negated kind => .ok (.perl negated kind)
  | .unicode negated query => .ok (.unicode negated query)
  | .assertion _ => .error .classEscapeInvalid

/-- The character that a primitive stands for at the end of a range. -/
def Primitive.toBoundary : Primitive → Except SyntaxError Literal
  | .literal char => .ok char
  | _ => .error .classRangeLiteral

/-- Read one end of a range, or a member that stands alone. -/
def readMember (verbose : Bool) (first : Char) (text : List Char) :
    Except SyntaxError (Read Primitive text) :=
  if first = '\\' then readEscape verbose text
  else .ok ⟨.literal ⟨first, false⟩, text, Read.took_none text⟩

/-- Read a member or a range that starts with `first`.  A hyphen before a closing
bracket is a member, and before another hyphen it starts an operator. -/
def readMemberOrRange (verbose : Bool) (first : Char) (text : List Char) :
    Except SyntaxError (Read ClassSet text) := do
  let start ← readMember verbose first text
  match skipped : skipBlank verbose start.rest with
  | [] => .error .classUnclosed
  | '-' :: behind =>
    if peekBlank verbose behind = some ']' ∨ peekBlank verbose behind = some '-' then do
      return ⟨← start.value.toMember, '-' :: behind,
        Nat.le_trans (length_le_of_skipBlank skipped) start.shorter⟩
    else
      match skippedBehind : skipBlank verbose behind with
      | [] => .error .classUnclosed
      | last :: rest => do
        let stop ← readMember verbose last rest
        let lower ← start.value.toBoundary
        let upper ← stop.value.toBoundary
        if upper.char < lower.char then throw .classRangeInvalid
        return ⟨.range lower upper, stop.rest,
          Nat.le_trans stop.shorter (Nat.le_trans
            (Nat.le_of_lt (Nat.lt_trans (length_lt_of_skipBlank skippedBehind)
              (length_lt_of_skipBlank skipped)))
            start.shorter)⟩
  | next :: behind => do
    return ⟨← start.value.toMember, next :: behind,
      Nat.le_trans (length_le_of_skipBlank skipped) start.shorter⟩

/-! ## Opening a class -/

/-- The hyphens that stand first in a class, each a member. -/
def readHyphens (verbose : Bool) (text : List Char) : Read (List ClassSet) text :=
  let run := readRun verbose (· = '-') text
  run.map fun hyphens => hyphens.map fun hyphen => .literal ⟨hyphen, false⟩

/-- Read the front of a class from behind its bracket: whether it is negated, and
the members that would mean something else further on, last first. -/
def readClassOpening (verbose : Bool) (text : List Char) :
    Except SyntaxError (Read (Bool × List ClassSet) text) :=
  have skipped := length_skipBlank_le verbose text
  let start := skipBlank verbose text
  let negated := start.head? = some '^'
  let body := if negated then skipBlank verbose (start.drop 1) else start
  have bodyShorter : body.length ≤ text.length := by
    have dropped := length_skipBlank_le verbose (start.drop 1)
    have startShorter : start.length ≤ text.length := skipped
    simp only [List.length_drop] at dropped
    simp only [body]
    split <;> omega
  let hyphens := readHyphens verbose body
  have hyphensShorter := hyphens.shorter
  match _ : hyphens.rest with
  | [] => .error .classUnclosed
  | ']' :: rest =>
    if hyphens.value.isEmpty then
      have restSkipped := length_skipBlank_le verbose rest
      if (skipBlank verbose rest).isEmpty then .error .classUnclosed
      else
        .ok ⟨(negated, [.literal ⟨']', false⟩]), skipBlank verbose rest, by
          simp_all only [List.length_cons]
          omega⟩
    else
      .ok ⟨(negated, hyphens.value), ']' :: rest, by
        simp_all only [List.length_cons]
        omega⟩
  | next :: rest =>
    .ok ⟨(negated, hyphens.value), next :: rest, by
      simp_all only [List.length_cons]
      omega⟩

/-! ## Whole classes -/

/-- What waits for the class text that is being read: an outer class with its
members so far, last first, or an operator with its left-hand side. -/
inductive ClassFrame where
  | opened (members : List ClassSet) (negated : Bool)
  | operation (operator : SetOperator) (left : ClassSet)
deriving DecidableEq, Repr

/-- Give `right` to the operator that waits for it, if one does. -/
def applyOperation (right : ClassSet) : List ClassFrame → ClassSet × List ClassFrame
  | .operation operator left :: frames => (.operation operator left right, frames)
  | frames => (right, frames)

/-- The operator that two equal characters write. -/
def operatorOf? (first : Char) (rest : List Char) : Option SetOperator :=
  if rest.head? ≠ some first then none
  else
    match first with
    | '&' => some .intersection
    | '-' => some .difference
    | '~' => some .symmetricDifference
    | _ => none

/-- Read up to the bracket that closes the outermost class.  `members` are those
of the innermost class since its last operator, last first. -/
def readClassBody (verbose : Bool) (frames : List ClassFrame) (members : List ClassSet)
    (text : List Char) : Except SyntaxError (Read (Bool × ClassSet) text) :=
  have skipped := length_skipBlank_le verbose text
  match _ : skipBlank verbose text with
  | [] => .error .classUnclosed
  | '[' :: rest =>
    match readAsciiClass? rest with
    | some item =>
      have shorter := item.shorter
      have : item.rest.length < text.length := by
        simp_all only [List.length_cons]
        omega
      do
        let read ← readClassBody verbose frames (item.value :: members) item.rest
        return read.weaken (by omega)
    | none => do
      let opening ← readClassOpening verbose rest
      have shorter := opening.shorter
      have : opening.rest.length < text.length := by
        simp_all only [List.length_cons]
        omega
      let (negated, inner) := opening.value
      let read ← readClassBody verbose (.opened members negated :: frames) inner opening.rest
      return read.weaken (by omega)
  | ']' :: rest =>
    have : rest.length < text.length := by
      simp_all only [List.length_cons]
      omega
    let (set, waiting) := applyOperation (.ofItems members.reverse) frames
    match waiting with
    | .opened outer negated :: enclosing =>
      if enclosing.isEmpty then .ok ⟨(negated, set), rest, by omega⟩
      else do
        let read ← readClassBody verbose enclosing (.bracketed negated set :: outer) rest
        return read.weaken (by omega)
    | _ => .error .classUnclosed
  | first :: rest =>
    match operatorOf? first rest with
    | some operator =>
      let (left, waiting) := applyOperation (.ofItems members.reverse) frames
      have : (rest.drop 1).length < text.length := by
        simp_all only [List.length_cons, List.length_drop]
        omega
      do
        let read ← readClassBody verbose (.operation operator left :: waiting) [] (rest.drop 1)
        return read.weaken (by omega)
    | none => do
      let item ← readMemberOrRange verbose first rest
      have shorter := item.shorter
      have : item.rest.length < text.length := by
        simp_all only [List.length_cons]
        omega
      let read ← readClassBody verbose frames (item.value :: members) item.rest
      return read.weaken (by omega)
termination_by text.length
decreasing_by
  all_goals simp_all only [List.length_cons, List.length_drop]

/-- Read a bracket class from behind its bracket: whether it is negated, and its
body. -/
def readBracketClass (verbose : Bool) (text : List Char) :
    Except SyntaxError (Read (Bool × ClassSet) text) := do
  let opening ← readClassOpening verbose text
  let (negated, members) := opening.value
  let body ← readClassBody verbose [.opened [] negated] members opening.rest
  return body.weaken opening.shorter

end Linear
end LineExtraction
