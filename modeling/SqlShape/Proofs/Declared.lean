import SqlShape.Proofs.Lowered
import SqlShape.Proofs.Uses

/-!
# Parameters of lowered statements

Lowering invents no parameter and renames none. It may give a parameter the type of the expression beside it, where the
declared type widens to that one (`LogicalType.Reaches`). So every place of a lowered statement where a parameter is
used goes back to a declaration in the shape (`Select.Lowered.declared_of_mem_uses`).
-/

namespace SqlShape

namespace LogicalType

/-- A parameter of one type may be used with the other: the type widens to it, and bytes are asked for only of bytes. -/
structure Reaches (s t : LogicalType) : Prop where
  widens : s.Widens t
  bytes : t = .bytes → s = .bytes

theorem Reaches.refl (t : LogicalType) : t.Reaches t :=
  ⟨.refl t, id⟩

theorem Reaches.trans {s t u : LogicalType} (first : s.Reaches t) (second : t.Reaches u) : s.Reaches u :=
  ⟨first.widens.trans second.widens, fun bytes => first.bytes (second.bytes bytes)⟩

/-- Only bytes compare with bytes. -/
theorem eq_bytes_of_comparableWith {s : LogicalType} (comparable : s.comparableWith .bytes = true) : s = .bytes := by
  cases s with
  | bytes => rfl
  | _ => cases comparable

end LogicalType

namespace Expr

/-- A parameter is used with a type that its declared type reaches. -/
def IsDeclared (ps : Declarations) : Expr String → Prop
  | parameter name t _ => ∃ declared, ps name declared ∧ declared.Reaches t
  | _ => True

/-- The parameters of a lowered expression are declared. -/
theorem Lowered.everywhere_isDeclared {d : Dialect} {b : Builder} {ps : Declarations} {e : Expr String}
    (serves : b.Serves d) (lowered : e.Lowered d b ps) : e.Everywhere (IsDeclared ps) := by
  have nodes := lowered.everywhere (P := IsDeclared ps) (R := fun s t => t = .bytes → s = .bytes) ?_ ?_ ?_ ?_
  · exact fun x member => (nodes x member).2
  · intro x none _
    cases x with
    | parameter => cases none
    | _ => trivial
  · exact fun name t m declared => ⟨t, declared, .refl t⟩
  · rintro name t m m' widens bytes ⟨declared, known, reaches⟩
    exact ⟨declared, known, reaches.trans ⟨widens, bytes⟩⟩
  · intro x y _ second comparable bytes
    -- What compares is scalar, so the type beside is that of the mapping.
    have scalar := (LogicalType.scalar_of_comparableWith comparable).2
    rw [(second.native serves).type_eq scalar, bytes] at comparable
    exact LogicalType.eq_bytes_of_comparableWith comparable

/-- A place of an expression is one of its parameter leaves. -/
theorem exists_parameter_of_mem_uses {e : Expr String} {u : ParameterUse} (member : u ∈ e.uses) :
    ∃ m, .parameter u.name u.type m ∈ e.nodes := by
  have listed : (u.name, u.type) ∈ e.uses.map fun u => (u.name, u.type) := List.mem_map.mpr ⟨u, member, rfl⟩
  rw [map_uses] at listed
  obtain ⟨n, node, leaf⟩ := List.mem_filterMap.mp listed
  cases n with
  | parameter name t m =>
    cases leaf
    exact ⟨m, node⟩
  | _ => cases leaf

end Expr

namespace Select.Lowered

variable {d : Dialect} {b : Builder} {ps : Declarations} {s : Select String}

/-- Every place of a lowered statement goes back to a declaration. -/
theorem declared_of_mem_uses (serves : b.Serves d) (lowered : s.Lowered d b ps) {u : ParameterUse}
    (member : u ∈ s.uses) : ∃ declared, ps u.name declared ∧ declared.Reaches u.type := by
  obtain ⟨e, inside, here⟩ := List.mem_flatMap.mp member
  obtain ⟨m, node⟩ := Expr.exists_parameter_of_mem_uses here
  exact (lowered.expressions e inside).everywhere_isDeclared serves _ node

/-- Every name that a lowered statement refers to is declared. -/
theorem declared_of_mem_refs (serves : b.Serves d) (lowered : s.Lowered d b ps) {e : Expr String}
    (inside : e ∈ s.expressions) {name : String} (referred : name ∈ e.refs) : ∃ declared, ps name declared := by
  obtain ⟨n, node, leaf⟩ := List.mem_filterMap.mp referred
  have known := (lowered.expressions e inside).everywhere_isDeclared serves n node
  cases n with
  | parameter name' t m =>
    cases leaf
    obtain ⟨declared, here, -⟩ := known
    exact ⟨declared, here⟩
  | _ => cases leaf

end Select.Lowered

end SqlShape
