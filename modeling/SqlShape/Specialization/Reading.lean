import SqlShape.Specialization.Nullness

/-!
# Reading an expression for given values

In a query null equals null and every condition is true or false; in the database a comparison with null is
unknown. An expression is therefore read in one of two ways, as it stands or negated, and each way yields an
SQL expression that is true in the database exactly where the reading holds in the query. A negation is never
left above a comparison that was changed: it is carried down to the comparisons, which are then completed for
the form in which they end up.

`equality`, `expandMembership` and `withNullArms` are the rules at the leaves. They are given the readings of
the operands, so `read` recurs on the expression alone.
-/

namespace SqlShape.Specialization

/-- The outcome of reading an expression, and whether it differs from what was read. -/
structure Visited where
  expr : Expr Slot
  changed : Bool

/-- The two ways to read an expression. A written negation is read with its mapping, so that one above an
operand without change can be kept as it is. -/
structure Reading where
  asIs : Pass Visited
  negated : Option TypeMapping → Pass Visited

/-- The outcome of a rule that puts something else in place of what was read. -/
def replaced (e : Expr Slot) : Visited :=
  ⟨e, true⟩

/-! ## Truth values in connectives -/

/-- A connective over a truth value, decided or reduced to its other side. -/
def reduce? (b : Builder) : Expr Slot → Option (Expr Slot)
  | .binary .and left right _ =>
    match left.truth?, right.truth? with
    | some false, _ | _, some false => some (b.truth false)
    | some true, _ => some right
    | _, some true => some left
    | none, none => none
  | .binary .or left right _ =>
    match left.truth?, right.truth? with
    | some true, _ | _, some true => some (b.truth true)
    | some false, _ => some right
    | _, some false => some left
    | none, none => none
  | _ => none

/-- A visited expression without a connective over a truth value at its top. -/
def Visited.reduced (b : Builder) (v : Visited) : Visited :=
  match reduce? b v.expr with
  | some e => replaced e
  | none => v

/-! ## Rules at the leaves -/

/-- The placeholder of a scalar parameter. -/
def readParameter (s : Setting) (name : String) (type : LogicalType) (mapping : TypeMapping)
    (convertTo : Option LogicalType) : Pass Visited := do
  let _ ← s.bindings.getScalar name type
  return replaced (← placeholder mapping (.value name type convertTo))

/-- A test for null, decided where the nullness is known. -/
def nullTest (s : Setting) (operand : Expr String) (visit : Pass Visited) (negated : Bool)
    (mapping : TypeMapping) : Pass Visited := do
  match ← knownNullness s operand with
  | some isNull => return replaced (s.builder.truth (isNull != negated))
  | none =>
    let v ← visit
    return ⟨.nullTest v.expr negated mapping, v.changed⟩

/-- The negation of a visited expression; a written one is kept where nothing below it changed. -/
def negateVisited (s : Setting) (visit : Pass Visited) (written : Option TypeMapping) : Pass Visited := do
  let v ← visit
  match written, v.changed with
  | some mapping, false => return ⟨.negation v.expr mapping, false⟩
  | _, _ => return replaced (← s.builder.not v.expr)

/-- Adds to a condition the arm that an operand is null, for each operand that may be. A condition with an
operand that is known to be null holds. -/
def addNullArms (s : Setting) (v : Visited) : List (Expr String × Reading) → Pass Visited
  | [] => return v.reduced s.builder
  | (operand, reading) :: rest => do
    match ← knownNullness s operand with
    | some true => return replaced (s.builder.truth true)
    | some false => addNullArms s v rest
    | none =>
      if ← mayBeNull s operand then
        let o ← reading.asIs
        addNullArms s (replaced (← s.builder.or v.expr (s.builder.isNull o.expr))) rest
      else addNullArms s v rest

/-- A negated condition that also holds where an operand is null. -/
def withNullArms (s : Setting) (v : Visited) (operands : List (Expr String × Reading)) : Pass Visited :=
  if s.relationalNulls then return v else addNullArms s v operands

/-- The condition that completes a comparison of two operands that may be null, as marked. -/
def completed (b : Builder) (equal : Bool) (comparison : Visited) (left right : Expr Slot)
    (leftNullable rightNullable : Bool) : Except QueryError Visited := do
  match equal, leftNullable, rightNullable with
  | true, true, true =>
    return replaced (← b.or comparison.expr (← b.and (b.isNull left) (b.isNull right)))
  | false, true, true =>
    let differs ← b.or (← b.or comparison.expr (b.isNull left)) (b.isNull right)
    let notBothNull ← b.or (b.isNotNull left) (b.isNotNull right)
    return replaced (← b.and differs notBothNull)
  | false, true, false => return replaced (← b.or comparison.expr (b.isNull left))
  | false, false, true => return replaced (← b.or comparison.expr (b.isNull right))
  | _, _, _ => return comparison

/-- Which operands of an equality or inequality have to be completed for null. An equality is completed only
where both operands may be null. -/
def nullableOperands (s : Setting) (equal : Bool) (left right : Expr String) : Pass (Bool × Bool) := do
  if s.relationalNulls then return (false, false)
  let l ← mayBeNull s left
  if equal && !l then return (false, false)
  return (l, ← mayBeNull s right)

/-- An equality (`equal`) or inequality under which null equals null. -/
def equality (s : Setting) (equal : Bool) (left right : Expr String × Reading) (mapping : TypeMapping) :
    Pass Visited := do
  let leftNull := (← knownNullness s left.1) == some true
  let rightNull := (← knownNullness s right.1) == some true
  match leftNull, rightNull with
  | true, true => return replaced (s.builder.truth equal)
  | true, false => return replaced (.nullTest (← right.2.asIs).expr (!equal) s.builder.boolMapping)
  | false, true => return replaced (.nullTest (← left.2.asIs).expr (!equal) s.builder.boolMapping)
  | false, false =>
    let (leftNullable, rightNullable) ← nullableOperands s equal left.1 right.1
    let l ← left.2.asIs
    let r ← right.2.asIs
    let op : BinaryOp := if equal then .equal else .notEqual
    let comparison : Visited := ⟨.binary op l.expr r.expr mapping, l.changed || r.changed⟩
    completed s.builder equal comparison l.expr r.expr leftNullable rightNullable

/-- The elements of a sequence, numbered, and whether one is null. -/
def sequenceElements (name : String) (type : LogicalType) :
    List (Value × Nat) → Except QueryError (List Nat × Bool)
  | [] => .ok ([], false)
  | (value, index) :: rest =>
    if value.isNull then do
      let (indices, _) ← sequenceElements name type rest
      return (indices, true)
    else if value.isList then .error (.unsupportedBinding name (.nestedElement index))
    else if value.fits type then do
      let (indices, hasNull) ← sequenceElements name type rest
      return (index :: indices, hasNull)
    else .error (.unsupportedBinding name (.elementType index type))

/-- The values of a parameter that holds a sequence; null holds none. -/
def sequenceValues (b : Bindings) (name : String) : Except QueryError (List Value) := do
  match ← b.get name with
  | .null => return []
  | .list values => return values
  | _ => throw (.unsupportedBinding name .notAList)

/-- The mapping of the elements of a sequence: that of the item where the elements widen to it and the item is
neither a constant nor a parameter itself. -/
def elementMapping (item : Expr String) (mapping : TypeMapping) : TypeMapping :=
  if !item.isSupplied && mapping.type.widensTo item.mapping.type then item.mapping else mapping

/-- One placeholder for each element of a sequence parameter that is not null, and whether one is null. -/
def elementPlaceholders (b : Bindings) (name : String) (type : LogicalType) (element : TypeMapping) :
    Pass (List (Expr Slot) × Bool) := do
  let values ← sequenceValues b name
  expand
  let (indices, hasNull) ← sequenceElements name type values.zipIdx
  let placeholders ← indices.mapM fun index => placeholder element (.element name index element.type)
  return (placeholders, hasNull)

/-- The item may match a null element, which the database never finds equal to anything. -/
def mayMatchNull (s : Setting) (item : Expr String) (hasNull : Bool) : Pass Bool := do
  if hasNull then return (← knownNullness s item) != some false else return false

/-- The item of a negated membership may be null, which the database never finds different from anything. -/
def mayMissNull (s : Setting) (item : Expr String) (negated : Bool) : Pass Bool :=
  if negated && !s.relationalNulls then mayBeNull s item else return false

/-- A membership completed for null. A null element is tested for apart from the others; a null item is outside
of a sequence without one. -/
def completedMembership (s : Setting) (item : Expr String) (visited : Expr Slot) (hasNull negated : Bool)
    (membership : Expr Slot) : Pass (Expr Slot) := do
  if ← mayMatchNull s item hasNull then
    if negated then s.builder.and membership (s.builder.isNotNull visited)
    else s.builder.or membership (s.builder.isNull visited)
  else if ← mayMissNull s item negated then s.builder.or membership (s.builder.isNull visited)
  else return membership

/-- Membership in a sequence parameter, element by element. -/
def expandMembership (s : Setting) (item : Expr String × Reading) (name : String)
    (sequenceMapping : TypeMapping) (negated : Bool) (mapping : TypeMapping) : Pass Visited := do
  let (placeholders, hasNull) ←
    elementPlaceholders s.bindings name sequenceMapping.type (elementMapping item.1 sequenceMapping)
  let v ← item.2.asIs
  let membership : Expr Slot :=
    if placeholders.isEmpty then s.builder.truth negated else .inList v.expr placeholders negated mapping
  let outcome ← completedMembership s item.1 v.expr hasNull negated membership
  return (replaced outcome).reduced s.builder

/-! ## The two readings -/

/-- The parameter below a conversion that its value can take over. -/
def convertedParameter? (operand : Expr String) (target : LogicalType) : Option (String × LogicalType) :=
  match operand with
  | .parameter name type _ => if !type.isSequence && type.widensTo target then some (name, type) else none
  | _ => none

/-- Reads expressions in a row. -/
def visitAll (readings : List Reading) : Pass (List Visited) :=
  readings.mapM Reading.asIs

/-- A membership in a list, visited. -/
def visitList (item : Reading) (values : List Reading) (negated : Bool) (mapping : TypeMapping) :
    Pass Visited := do
  let i ← item.asIs
  let vs ← visitAll values
  return ⟨.inList i.expr (vs.map Visited.expr) negated mapping, i.changed || vs.any Visited.changed⟩

/-- A membership in a parameter, visited. What is no parameter is left in place. -/
def visitMembership (s : Setting) (item source : Expr String × Reading) (negated : Bool)
    (mapping : TypeMapping) : Pass Visited :=
  match source.1 with
  | .parameter name _ sequenceMapping => expandMembership s item name sequenceMapping negated mapping
  | _ => do
    let i ← item.2.asIs
    let v ← source.2.asIs
    return replaced (.inParameter i.expr v.expr negated mapping)

/-- A binary operation, visited operand by operand. -/
def visitBinary (s : Setting) (op : BinaryOp) (left right : Reading) (mapping : TypeMapping) : Pass Visited := do
  let l ← left.asIs
  let r ← right.asIs
  return Visited.reduced s.builder ⟨.binary op l.expr r.expr mapping, l.changed || r.changed⟩

/-- A binary operation, read as it stands. -/
def readBinary (s : Setting) (op : BinaryOp) (left right : Expr String × Reading) (mapping : TypeMapping) :
    Pass Visited :=
  match op with
  | .equal => equality s true left right mapping
  | .notEqual => equality s false left right mapping
  | _ => visitBinary s op left.2 right.2 mapping

/-- A binary operation, read negated. -/
def negateBinary (s : Setting) (op : BinaryOp) (left right : Expr String × Reading) (mapping : TypeMapping)
    (written : Option TypeMapping) : Pass Visited := do
  match op with
  | .and =>
    let l ← left.2.negated none
    let r ← right.2.negated none
    return (replaced (← s.builder.or l.expr r.expr)).reduced s.builder
  | .or =>
    let l ← left.2.negated none
    let r ← right.2.negated none
    return (replaced (← s.builder.and l.expr r.expr)).reduced s.builder
  | .equal => return replaced (← equality s false left right mapping).expr
  | .notEqual => return replaced (← equality s true left right mapping).expr
  | _ =>
    match op.negated? with
    | some opposite =>
      let v ← visitBinary s opposite left.2 right.2 mapping
      return replaced (← withNullArms s v [left, right]).expr
    | none => negateVisited s (readBinary s op left right mapping) written

mutual
/-- The two readings of an expression. -/
def read (s : Setting) : Expr String → Reading
  | .constant value mapping =>
    let visit : Pass Visited := return ⟨.constant value mapping, false⟩
    ⟨visit, negateVisited s visit⟩
  | .column table name mapping nullable =>
    let visit : Pass Visited := return ⟨.column table name mapping nullable, false⟩
    ⟨visit, negateVisited s visit⟩
  | .parameter name type mapping =>
    let visit : Pass Visited :=
      if type.isSequence then throw (.unsupportedBinding name .outsideMembership)
      else readParameter s name type mapping none
    ⟨visit, negateVisited s visit⟩
  | .function name arguments mapping nullable =>
    let readings := readAll s arguments
    let visit : Pass Visited := do
      let vs ← visitAll readings
      return ⟨.function name (vs.map Visited.expr) mapping nullable, vs.any Visited.changed⟩
    ⟨visit, negateVisited s visit⟩
  | .binary op left right mapping =>
    let l := (left, read s left)
    let r := (right, read s right)
    ⟨readBinary s op l r mapping, negateBinary s op l r mapping⟩
  | .negation operand mapping =>
    let o := read s operand
    ⟨o.negated (some mapping), fun _ => do return replaced (← o.asIs).expr⟩
  | .nullTest operand negated mapping =>
    let o := read s operand
    { asIs := nullTest s operand o.asIs negated mapping
      negated := fun _ => do
        Builder.requireType .negation .bool (.nullTest operand negated mapping)
        return replaced (← nullTest s operand o.asIs (!negated) s.builder.boolMapping).expr }
  | .convert operand mapping =>
    let o := read s operand
    let visit : Pass Visited :=
      match convertedParameter? operand mapping.type with
      | some (name, type) => readParameter s name type mapping (some mapping.type)
      | none => do
        let v ← o.asIs
        return ⟨.convert v.expr mapping, v.changed⟩
    ⟨visit, negateVisited s visit⟩
  | .inList item values negated mapping =>
    let i := read s item
    let vs := readAll s values
    { asIs := visitList i vs negated mapping
      negated := fun _ => do
        let v ← visitList i vs (!negated) mapping
        if ← (if negated then return true else anyMayBeNull s values) then return replaced v.expr
        else return replaced (← withNullArms s v [(item, i)]).expr }
  | .inParameter item source negated mapping =>
    let i := (item, read s item)
    let v := (source, read s source)
    { asIs := visitMembership s i v negated mapping
      negated := fun _ => visitMembership s i v (!negated) mapping }
  | .like subject pattern escape mapping =>
    let u := read s subject
    let p := read s pattern
    let e := readOption s escape
    let visit : Pass Visited := do
      let u ← u.asIs
      let p ← p.asIs
      let e ← e.mapM Reading.asIs
      return ⟨.like u.expr p.expr (e.map Visited.expr) mapping, u.changed || p.changed || e.any Visited.changed⟩
    { asIs := visit
      negated := fun written => do
        withNullArms s (← negateVisited s visit written) [(subject, u), (pattern, p)] }
/-- The readings of expressions in a row. -/
def readAll (s : Setting) : List (Expr String) → List Reading
  | [] => []
  | e :: es => read s e :: readAll s es
/-- The readings of an expression that may be absent. -/
def readOption (s : Setting) : Option (Expr String) → Option Reading
  | none => none
  | some e => some (read s e)
end

end SqlShape.Specialization
