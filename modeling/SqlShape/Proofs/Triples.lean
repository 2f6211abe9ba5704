import Mathlib.Data.List.Forall2
import SqlShape.Proofs.Pass

/-!
# Triples about a pass

A run of a pass starts from some slots, and is refused or yields a result and more slots. `Triple` says what comes of
all runs from slots with a given property, and its rules follow the way in which a pass is put together; they are the
only place where runs are opened.

Two shapes of triples are used throughout. Under a `Contract`, a pass keeps a property of the slots, is refused only as
the contract admits, and yields a result with a property (`Meets`). Of a pass that adds to what was gathered before, the
result may speak of the slots that are gathered by then (`Gathers`).
-/

namespace SqlShape

namespace Specialization

variable {α β γ : Type}

/-! ## Rules -/

/-- From slots with `pre`, every run is refused with a refusal in `refused`, or yields a result that has `post` together
with the slots that are gathered by then. -/
structure Triple (pre : List Slot → Prop) (f : Pass α) (post : List Slot → α → Prop)
    (refused : QueryError → Prop) : Prop where
  yields {p q : Progress} {x : α} : pre p.slots → f.run p = .ok (x, q) → post q.slots x
  refuses {p : Progress} {refusal : QueryError} : pre p.slots → f.run p = .error refusal → refused refusal

section Rules

variable {pre : List Slot → Prop} {refused : QueryError → Prop}

/-- A result alone. -/
theorem triple_pure {x : α} {post : List Slot → α → Prop} (holds : ∀ S, pre S → post S x) :
    Triple pre (pure x) post refused where
  yields before run := by
    obtain ⟨rfl, rfl⟩ := run_pure_eq_ok.mp run
    exact holds _ before
  refuses _ run := by cases run

/-- A check leaves the slots as they are. -/
theorem triple_lift {f : Except QueryError α} {post : List Slot → α → Prop}
    (ok : ∀ x, f = .ok x → ∀ S, pre S → post S x) (error : ∀ refusal, f = .error refusal → refused refusal) :
    Triple pre (liftM f) post refused where
  yields before run := by
    obtain ⟨found, rfl⟩ := run_lift_eq_ok.mp run
    exact ok _ found _ before
  refuses _ run := by
    cases f with
    | ok x => cases run
    | error refusal =>
      cases run
      exact error _ rfl

/-- A refusal. -/
theorem triple_throw {refusal : QueryError} {post : List Slot → α → Prop} (admitted : refused refusal) :
    Triple pre (throw refusal) post refused where
  yields _ run := by cases run
  refuses _ run := by
    cases run
    exact admitted

/-- A change to what was gathered. -/
theorem triple_modify {note : Progress → Progress} {post : List Slot → PUnit → Prop}
    (holds : ∀ p, pre p.slots → post (note p).slots ⟨⟩) : Triple pre (modify note) post refused where
  yields before run := by
    cases run
    exact holds _ before
  refuses _ run := by cases run

/-- A slot is registered: it is there under its key, or it is added. -/
theorem triple_register {slot : Slot} {post : List Slot → Slot → Prop}
    (there : ∀ S, pre S → ∀ found ∈ S, found.key = slot.key → post S found)
    (added : ∀ S, pre S → post (S ++ [slot]) slot) : Triple pre (register slot) post refused where
  yields before run := by
    rcases run_register_eq_ok.mp run with ⟨known, rfl⟩ | ⟨-, rfl, rfl⟩
    · exact there _ before _ (List.mem_of_find?_eq_some known) (of_decide_eq_true (List.find?_some known :))
    · exact added _ before
  refuses {p refusal} _ run := by
    cases known : p.slots.find? (·.key = slot.key) with
    | none =>
      rw [run_register_eq_ok.mpr (.inr ⟨known, rfl, rfl⟩)] at run
      cases run
    | some found =>
      rw [run_register_eq_ok.mpr (.inl ⟨known, rfl⟩)] at run
      cases run

namespace Triple

/-- One step after the other. -/
theorem bind {f : Pass α} {g : α → Pass β} {mid : List Slot → α → Prop} {post : List Slot → β → Prop}
    (first : Triple pre f mid refused) (second : ∀ x, Triple (mid · x) (g x) post refused) :
    Triple pre (f >>= g) post refused where
  yields before run := by
    obtain ⟨x, r, run₁, run₂⟩ := run_bind_eq_ok.mp run
    exact (second x).yields (first.yields before run₁) run₂
  refuses before run := by
    rcases run_bind_eq_error.mp run with here | ⟨x, r, run₁, run₂⟩
    · exact first.refuses before here
    · exact (second x).refuses (first.yields before run₁) run₂

/-- A weaker triple: from fewer slots, with more results and more refusals. -/
theorem imp {pre' : List Slot → Prop} {refused' : QueryError → Prop} {f : Pass α} {post post' : List Slot → α → Prop}
    (triple : Triple pre f post refused) (before : ∀ S, pre' S → pre S) (after : ∀ S x, post S x → post' S x)
    (admitted : ∀ refusal, refused refusal → refused' refusal) : Triple pre' f post' refused' where
  yields holds run := after _ _ (triple.yields (before _ holds) run)
  refuses holds run := admitted _ (triple.refuses (before _ holds) run)

/-- Two triples of one pass. -/
theorem and {f : Pass α} {post post' : List Slot → α → Prop} (first : Triple pre f post refused)
    (second : Triple pre f post' refused) : Triple pre f (fun S x => post S x ∧ post' S x) refused where
  yields before run := ⟨first.yields before run, second.yields before run⟩
  refuses := first.refuses

/-- The slots with which a run starts may be fixed beforehand. -/
theorem of_each {f : Pass α} {post : List Slot → α → Prop}
    (each : ∀ S, pre S → Triple (· = S) f post refused) : Triple pre f post refused where
  yields before run := (each _ before).yields rfl run
  refuses before run := (each _ before).refuses rfl run

end Triple

end Rules

/-! ## Contracts -/

/-- What a pass keeps of the slots, and the refusals in which it may end. -/
structure Contract where
  keeps : List Slot → Prop
  admits : QueryError → Prop

/-- Nothing is kept, and nothing is refused. -/
def Contract.total : Contract :=
  ⟨fun _ => True, fun _ => False⟩

/-- Every run keeps what the contract keeps and yields a result with a property, or is refused as the contract
admits. -/
def Meets (c : Contract) (f : Pass α) (post : α → Prop) : Prop :=
  Triple c.keeps f (fun S x => c.keeps S ∧ post x) c.admits

section Meets

variable {c : Contract}

theorem meets_pure {x : α} {post : α → Prop} (holds : post x) : Meets c (pure x) post :=
  triple_pure fun _ before => ⟨before, holds⟩

/-- A check meets a contract that admits its refusals. -/
theorem meets_lift {f : Except QueryError α} {post : α → Prop} (ok : ∀ x, f = .ok x → post x)
    (error : ∀ refusal, f = .error refusal → c.admits refusal) : Meets c (liftM f) post :=
  triple_lift (fun x found _ before => ⟨before, ok x found⟩) error

/-- A check that is passed. -/
theorem meets_ok {f : Except QueryError α} {x : α} {post : α → Prop} (made : f = .ok x) (holds : post x) :
    Meets c (liftM f) post := by
  subst made
  exact meets_pure holds

/-- A refusal that the contract admits ends the run. -/
theorem meets_throw {refusal : QueryError} {post : α → Prop} (admitted : c.admits refusal) :
    Meets c (throw refusal) post :=
  triple_throw admitted

/-- Noting that a parameter was consulted adds no slot. -/
theorem meets_consult {name : String} : Meets c (consult name) fun _ => True :=
  triple_modify fun _ before => ⟨before, trivial⟩

theorem meets_expand : Meets c expand fun _ => True :=
  triple_modify fun _ before => ⟨before, trivial⟩

namespace Meets

/-- What the first step yields is what the second starts from. -/
theorem bind {f : Pass α} {g : α → Pass β} {mid : α → Prop} {post : β → Prop} (first : Meets c f mid)
    (second : ∀ x, mid x → Meets c (g x) post) : Meets c (f >>= g) post := by
  refine Triple.bind first fun x => .of_each ?_
  rintro S ⟨before, holds⟩
  exact Triple.imp (second x holds) (fun _ same => same ▸ before) (fun _ _ => id) fun _ => id

/-- Less may be promised of the outcome. -/
theorem mono {f : Pass α} {post weaker : α → Prop} (meets : Meets c f post) (implied : ∀ x, post x → weaker x) :
    Meets c f weaker :=
  Triple.imp meets (fun _ => id) (fun _ x => And.imp_right (implied x)) fun _ => id

/-- A run has one outcome, so two promises hold of it together. -/
theorem and {f : Pass α} {left right : α → Prop} (first : Meets c f left) (second : Meets c f right) :
    Meets c f fun x => left x ∧ right x :=
  (Triple.and first second).imp (fun _ => id) (fun _ _ holds => ⟨holds.1.1, holds.1.2, holds.2.2⟩) fun _ => id

/-- One step for each item of a list. -/
theorem mapM {f : γ → Pass α} {post : γ → α → Prop} {items : List γ} (each : ∀ i ∈ items, Meets c (f i) (post i)) :
    Meets c (items.mapM f) (List.Forall₂ post items) := by
  induction items with
  | nil =>
    rw [List.mapM_nil]
    exact meets_pure .nil
  | cons i rest later =>
    rw [List.mapM_cons]
    refine (each i List.mem_cons_self).bind fun x head => ?_
    refine (later fun i' member => each i' (List.mem_cons_of_mem i member)).bind fun xs tail => ?_
    exact meets_pure (.cons head tail)

/-- One step for an item that may be absent. -/
theorem mapMOption {f : γ → Pass α} {post : γ → α → Prop} {item : Option γ}
    (each : ∀ i ∈ item, Meets c (f i) (post i)) : Meets c (item.mapM f) (Option.Rel post item) := by
  cases item with
  | none => exact meets_pure .none
  | some i =>
    rw [Option.mapM_some, map_eq_pure_bind]
    exact (each i rfl).bind fun x holds => meets_pure (.some holds)

/-- Two questions in a row: the second is asked where the answer to the first is no. -/
theorem orElse {f g : Pass Bool} {a b : Bool} (first : Meets c f (· = a)) (second : Meets c g (· = b)) :
    Meets c (do if ← f then return true else g) (· = (a || b)) := by
  refine first.bind fun answer same => ?_
  subst same
  cases answer with
  | true => exact meets_pure rfl
  | false => exact second

end Meets

variable {s : Setting} {post : Expr String → Visited → Prop}

/-- Expressions in a row are visited one by one. -/
theorem visitAll_meets {es : List (Expr String)} (each : ∀ e ∈ es, Meets c (read s e).asIs (post e)) :
    Meets c (visitAll (readAll s es)) (List.Forall₂ post es) := by
  unfold visitAll
  rw [readAll_eq_map, List.mapM_map]
  exact Meets.mapM each

/-- An expression that may be absent is visited where it is there. -/
theorem readOption_meets {o : Option (Expr String)} (each : ∀ e ∈ o, Meets c (read s e).asIs (post e)) :
    Meets c ((readOption s o).mapM Reading.asIs) (Option.Rel post o) := by
  cases o with
  | none => exact meets_pure .none
  | some e =>
    rw [readOption, Option.mapM_some, map_eq_pure_bind]
    exact (each e rfl).bind fun x holds => meets_pure (.some holds)

end Meets

/-! ## Slots that are added -/

/-- Once the slots `S` have been gathered, a run that is not refused keeps them and yields a result with a property of
the slots that are gathered by then. -/
def Gathers (S : List Slot) (f : Pass α) (post : List Slot → α → Prop) : Prop :=
  Triple (S ⊆ ·) f (fun T x => S ⊆ T ∧ post T x) fun _ => True

section Gathers

variable {S : List Slot}

/-- A step without effect promises what holds of all later slots. -/
theorem gathers_pure {x : α} {post : List Slot → α → Prop} (holds : ∀ T, S ⊆ T → post T x) :
    Gathers S (pure x) post :=
  triple_pure fun T before => ⟨before, holds T before⟩

theorem gathers_lift {f : Except QueryError α} {post : List Slot → α → Prop}
    (holds : ∀ x, f = .ok x → ∀ T, S ⊆ T → post T x) : Gathers S (liftM f) post :=
  triple_lift (fun x found T before => ⟨before, holds x found T before⟩) fun _ _ => trivial

/-- Nothing is promised of a run that ends in a refusal. -/
theorem gathers_throw {refusal : QueryError} {post : List Slot → α → Prop} : Gathers S (throw refusal) post :=
  triple_throw trivial

theorem gathers_expand : Gathers S expand fun _ _ => True :=
  triple_modify fun _ before => ⟨before, trivial⟩

namespace Gathers

/-- Less may be promised of the outcome and its slots. -/
theorem mono {f : Pass α} {post weaker : List Slot → α → Prop} (gathers : Gathers S f post)
    (implied : ∀ T x, post T x → weaker T x) : Gathers S f weaker :=
  Triple.imp gathers (fun _ => id) (fun T x => And.imp_right (implied T x)) fun _ => id

theorem and {f : Pass α} {left right : List Slot → α → Prop} (first : Gathers S f left) (second : Gathers S f right) :
    Gathers S f fun T x => left T x ∧ right T x :=
  (Triple.and first second).imp (fun _ => id) (fun _ _ holds => ⟨holds.1.1, holds.1.2, holds.2.2⟩) fun _ => id

/-- The second step starts from the slots that the first has added. -/
theorem bind {f : Pass α} {g : α → Pass β} {P : List Slot → α → Prop} {post : List Slot → β → Prop}
    (first : Gathers S f P) (second : ∀ T x, S ⊆ T → P T x → Gathers T (g x) post) :
    Gathers S (f >>= g) post := by
  refine Triple.bind first fun x => .of_each ?_
  rintro T ⟨before, holds⟩
  exact Triple.imp (second T x before holds) (fun _ same => same ▸ List.Subset.refl _)
    (fun _ _ => And.imp_left (List.Subset.trans before)) fun _ => id

/-- One step for each item of a list, with results that stay as they are. -/
theorem mapM {f : γ → Pass α} {post : γ → List Slot → α → Prop} {items : List γ}
    (stable : ∀ i ∈ items, ∀ T U x, T ⊆ U → post i T x → post i U x)
    (each : ∀ i ∈ items, ∀ T, S ⊆ T → Gathers T (f i) (post i)) :
    Gathers S (items.mapM f) fun T => List.Forall₂ (fun i x => post i T x) items := by
  induction items generalizing S with
  | nil =>
    rw [List.mapM_nil]
    exact gathers_pure fun _ _ => .nil
  | cons i rest later =>
    rw [List.mapM_cons]
    refine (each i List.mem_cons_self S (List.Subset.refl _)).bind fun T x grown head => ?_
    have others := later (fun i' member => stable i' (List.mem_cons_of_mem i member)) fun i' member U more =>
      each i' (List.mem_cons_of_mem i member) U (List.Subset.trans grown more)
    refine others.bind fun U xs more tail => ?_
    refine gathers_pure fun W last => .cons ?_ ?_
    · exact stable i List.mem_cons_self T W x (List.Subset.trans more last) head
    · exact List.forall₂_iff_zip.mpr ⟨tail.length_eq, fun {a b} paired =>
        stable a (List.mem_cons_of_mem i (List.of_mem_zip paired).1) U W b last
          (List.forall₂_zip tail paired)⟩

/-- One step for an item that may be absent. -/
theorem mapMOption {f : γ → Pass α} {post : γ → List Slot → α → Prop} {item : Option γ}
    (stable : ∀ i ∈ item, ∀ T U x, T ⊆ U → post i T x → post i U x)
    (each : ∀ i ∈ item, Gathers S (f i) (post i)) :
    Gathers S (item.mapM f) fun T => Option.Rel (fun i x => post i T x) item := by
  cases item with
  | none => exact gathers_pure fun _ _ => .none
  | some i =>
    rw [Option.mapM_some, map_eq_pure_bind]
    exact (each i rfl).bind fun T x _ holds => gathers_pure fun U more => .some (stable i rfl T U x more holds)

end Gathers

end Gathers

end Specialization

end SqlShape
