import Transceiver.Proofs.Absence

/-!
# Two runs side by side

Two procedures run from two benches that are alike in some way.  They are coupled if, whatever the
benches are, the second one succeeds where the first does, with a value that is related to that of
the first, and the benches are alike again after them.  Coupled parts make coupled sequences, and on
benches that cannot be told apart off the bus sessions open alike.
-/

namespace Transceiver

variable {α α' β β' : Type}

/-! ## Benches that are alike -/

/-- The action is answered alike on benches that are alike, and leaves them so. -/
def Action.IsBlind (S : Bench → Bench → Prop) (a : Action) : Prop :=
  ∀ b b', S b b' → (Bench.answer a b').1 = (Bench.answer a b).1 ∧
    S (Bench.answer a b).2 (Bench.answer a b').2

/-- A way for benches to be alike that cannot be told off the bus. -/
class Likeness (S : Bench → Bench → Prop) : Prop where
  isBlind {a : Action} (h : a.IsOffBus) : a.IsBlind S

instance : Likeness Eq where
  isBlind _ _ _ h := h ▸ ⟨rfl, rfl⟩

instance (S : Bench → Bench → Prop) [Likeness S] :
    (Single (Action.IsBlind S)).Includes Action.IsOffBus where
  part_of_kind action h := .perform action (Likeness.isBlind h)

/-- A program of actions that are answered alike runs alike. -/
theorem Program.MadeOf.run_alike {S : Bench → Bench → Prop} {p : Program α}
    (h : p.MadeOf (Single (Action.IsBlind S))) {b b' : Bench} (hb : S b b') :
    p.value Bench.answer b' = p.value Bench.answer b ∧
      S (p.final Bench.answer b) (p.final Bench.answer b') := by
  induction h generalizing b b' with
  | part h =>
    cases h with
    | perform action ha => exact ha b b' hb
  | done a => exact ⟨rfl, hb⟩
  | bind _ _ ih ihf =>
    obtain ⟨hvalue, hfinal⟩ := ih hb
    rw [value_bind, value_bind, final_bind, final_bind, hvalue]
    exact ihf _ hfinal

/-! ## Runs -/

namespace Procedure.RunsTo

variable {σ : Type} {env : Environment σ} {p : Procedure α} {f : α → Procedure β} {s s₂ : σ}

theorem unique {r r' : Except Error α} {s₁ s₁' : σ} (h : p.RunsTo env s r s₁)
    (h' : p.RunsTo env s r' s₁') : r = r' ∧ s₁ = s₁' :=
  ⟨h.value.symm.trans h'.value, h.final.symm.trans h'.final⟩

/-- A sequence goes on from where its first part succeeds, or ends as that fails. -/
theorem bind_cases {r : Except Error β} (h : (p >>= f).RunsTo env s r s₂) :
    (∃ a s₁, p.RunsTo env s (.ok a) s₁ ∧ (f a).RunsTo env s₁ r s₂) ∨
      ∃ e, r = .error e ∧ p.RunsTo env s (.error e) s₂ := by
  cases hp : p.run.value env s with
  | ok a =>
    have ha : p.RunsTo env s (.ok a) (p.run.final env s) := ⟨hp, rfl⟩
    have hrest := h.unique (ha.bind ⟨rfl, rfl⟩)
    exact .inl ⟨a, _, ha, hrest.1.symm, hrest.2.symm⟩
  | error e =>
    have he : p.RunsTo env s (.error e) (p.run.final env s) := ⟨hp, rfl⟩
    obtain ⟨rfl, rfl⟩ := h.unique he.bind_error
    exact .inr ⟨e, rfl, he⟩

end Procedure.RunsTo

/-- A group that can be acquired makes no difference to a procedure. -/
theorem PinGroup.hold_runsTo_iff {g : PinGroup} {b b' : Bench} {p : Procedure α}
    {r : Except Error α} (h : (b.pin g.id).failAcquire = false) :
    (g.hold p).RunsTo Bench.answer b r b' ↔ p.RunsTo Bench.answer b r b' := by
  have hsame := sameRun_hold p h
  constructor
  · exact fun hrun ↦ ⟨hsame.value.symm.trans hrun.value, hsame.final.symm.trans hrun.final⟩
  · exact hold_runsTo h

/-! ## Coupled procedures -/

namespace Procedure

/-- On benches that are alike by `S`, the second procedure succeeds if the first one does, the
values are related by `R`, and the benches that they end in are alike.  If `E` holds, the second
procedure fails as the first one does. -/
structure Couples (S : Bench → Bench → Prop) (E : Prop) (R : α → α' → Prop) (p : Procedure α)
    (q : Procedure α') : Prop where
  ok {b b' b₁ : Bench} {x : α} : S b b' → p.RunsTo Bench.answer b (.ok x) b₁ →
    ∃ y b₁', q.RunsTo Bench.answer b' (.ok y) b₁' ∧ R x y ∧ S b₁ b₁'
  error {b b' b₁ : Bench} {e : Error} : E → S b b' → p.RunsTo Bench.answer b (.error e) b₁ →
    ∃ b₁', q.RunsTo Bench.answer b' (.error e) b₁'

namespace Couples

variable {S : Bench → Bench → Prop} {E : Prop} {R : α → α' → Prop} {Q : β → β' → Prop}
variable {p : Procedure α} {q : Procedure α'} {f : α → Procedure β} {g : α' → Procedure β'}

theorem pure {a : α} {a' : α'} (h : R a a') : Couples S E R (Pure.pure a) (Pure.pure a') where
  ok hS hx := by
    obtain ⟨heq, rfl⟩ := hx.unique (.pure _ _)
    cases heq
    exact ⟨a', _, .pure _ _, h, hS⟩
  error _ _ he := nomatch (he.unique (.pure _ _)).1

theorem throw (e : Error) :
    Couples S E R (MonadExcept.throw e : Procedure α) (MonadExcept.throw e : Procedure α') where
  ok _ hx := nomatch (hx.unique (.throw _ _)).1
  error _ _ he := by
    cases (he.unique (.throw _ _)).1
    exact ⟨_, .throw e _⟩

/-- What fails at once is coupled to anything where failures do not matter. -/
theorem of_throw (hE : ¬ E) (e : Error) :
    Couples S E R (MonadExcept.throw e : Procedure α) q where
  ok _ hx := nomatch (hx.unique (.throw _ _)).1
  error h := absurd h hE

theorem imp {R' : α → α' → Prop} (h : Couples S E R p q) (hR : ∀ x y, R x y → R' x y) :
    Couples S E R' p q where
  ok hS hx := by
    obtain ⟨y, b₁', hy, hxy, hS'⟩ := h.ok hS hx
    exact ⟨y, b₁', hy, hR _ _ hxy, hS'⟩
  error := h.error

theorem bind (h : Couples S E R p q) (hf : ∀ x y, R x y → Couples S E Q (f x) (g y)) :
    Couples S E Q (p >>= f) (q >>= g) where
  ok hS hz := by
    obtain ⟨x, b₁, hx, hz⟩ | ⟨e, ⟨⟩, -⟩ := hz.bind_cases
    obtain ⟨y, b₁', hy, hxy, hS₁⟩ := h.ok hS hx
    obtain ⟨z', b₂', hz', hzz', hS₂⟩ := (hf x y hxy).ok hS₁ hz
    exact ⟨z', b₂', hy.bind hz', hzz', hS₂⟩
  error hE hS he := by
    obtain ⟨x, b₁, hx, he⟩ | ⟨e, ⟨⟩, he⟩ := he.bind_cases
    · obtain ⟨y, b₁', hy, hxy, hS₁⟩ := h.ok hS hx
      obtain ⟨b₂', he'⟩ := (hf x y hxy).error hE hS₁ he
      exact ⟨b₂', hy.bind he'⟩
    · obtain ⟨b₁', he'⟩ := h.error hE hS he
      exact ⟨b₁', he'.bind_error⟩

/-- What follows need be coupled only for the same value. -/
theorem bind_same {q : Procedure α} {g : α → Procedure β'} (h : Couples S E Eq p q)
    (hf : ∀ x, Couples S E Q (f x) (g x)) : Couples S E Q (p >>= f) (q >>= g) :=
  h.bind fun x _ hx ↦ hx ▸ hf x

/-- A procedure of actions that are answered alike is coupled to itself. -/
theorem refl (h : p.MadeOf (Single (Action.IsBlind S))) : Couples S E Eq p p where
  ok hS hx := by
    obtain ⟨hvalue, hfinal⟩ := Program.MadeOf.run_alike h hS
    exact ⟨_, _, ⟨hvalue.trans hx.value, rfl⟩, rfl, hx.final ▸ hfinal⟩
  error _ hS he := ⟨_, (Program.MadeOf.run_alike h hS).1.trans he.value, rfl⟩

/-! ## Sessions -/

section Sessions

variable [Likeness S]

/-- A group is acquired alike, and released alike. -/
theorem hold {p : Procedure α} {q : Procedure α'} (group : PinGroup) (h : Couples S E R p q) :
    Couples S E R (group.hold p) (group.hold q) := by
  -- `S` says nothing about pins, but acquiring a group is off the bus and answered alike
  have halike {b b' : Bench} (hS : S b b') :
      (b'.pin group.id).failAcquire = (b.pin group.id).failAcquire := by
    have hacquire := (Likeness.isBlind (S := S) (a := .acquire group) rfl b b' hS).1
    revert hacquire
    simp only [Bench.answer, Pin.acquire]
    cases (b'.pin group.id).failAcquire <;> cases (b.pin group.id).failAcquire <;> simp
  constructor
  · intro b b' b₁ x hS hx
    cases hfail : (b.pin group.id).failAcquire with
    | true => cases (hx.unique (PinGroup.hold_runsTo_of_failAcquire hfail p)).1
    | false =>
      obtain ⟨y, b₁', hy, hrest⟩ := h.ok hS ((PinGroup.hold_runsTo_iff hfail).mp hx)
      exact ⟨y, b₁', PinGroup.hold_runsTo ((halike hS).trans hfail) hy, hrest⟩
  · intro b b' b₁ e hE hS he
    cases hfail : (b.pin group.id).failAcquire with
    | true =>
      cases (he.unique (PinGroup.hold_runsTo_of_failAcquire hfail p)).1
      exact ⟨b', PinGroup.hold_runsTo_of_failAcquire ((halike hS).trans hfail) q⟩
    | false =>
      obtain ⟨b₁', he'⟩ := h.error hE hS ((PinGroup.hold_runsTo_iff hfail).mp he)
      exact ⟨b₁', PinGroup.hold_runsTo ((halike hS).trans hfail) he'⟩

theorem during (t : SelectTarget) (h : Couples S E R p q) :
    Couples S E R (t.during p) (t.during q) :=
  hold t.group <| .bind (.refl (t.group.writeLevel_madeOf t.value)) fun _ _ _ ↦ h

theorem under (t? : Option SelectTarget) (h : Couples S E R p q) :
    Couples S E R (Selector.under t? p) (Selector.under t? q) := by
  cases t? with
  | none => exact h
  | some t => exact during t h

/-- Sessions open alike. -/
theorem session (e : Eeprom) {body : Selected → Procedure α} {body' : Selected → Procedure α'}
    (h : Couples S E R (body e.selected) (body' e.selected)) :
    Couples S E R (e.session body) (e.session body') := by
  have hvisit : Couples S E R (e.selector.during (do settle e.settleTime; body e.selected))
      (e.selector.during (do settle e.settleTime; body' e.selected)) :=
    under _ <| under _ <| .bind (.refl (.lift (settle_madeOf _))) fun _ _ _ ↦ h
  unfold Eeprom.session
  split
  · refine .bind (.refl (Line.read_madeOf _)) ?_
    rintro present _ rfl
    split
    · exact hvisit
    · exact .bind (.throw (R := Eq) _) fun _ _ _ ↦ hvisit
  · exact hvisit

end Sessions

end Couples

end Procedure

end Transceiver
