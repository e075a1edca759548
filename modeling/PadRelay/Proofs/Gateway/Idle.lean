import PadRelay.Proofs.Gateway.Homely
import PadRelay.Proofs.Gateway.Surroundings

/-!
# Whose close matters

An attached channel stays attached until it closes. So if hooks wait for the close of attached
channels only, they do so after every step that registers no others, and an open connection that is
not attached is idle: nothing waits for its close.
-/

namespace PadRelay.Gateway

variable {gateway : Gateway} {handle : Handle}

theorem IsAttached.onClose (attached : gateway.IsAttached handle) (other : Handle) (hook : Hook) :
    (gateway.onClose other hook).IsAttached handle := by
  obtain ⟨connection, identity, found, isOpen, waits⟩ := attached
  cases held : gateway.connections.get? other with
  | none =>
      simp only [Gateway.onClose, held]
      exact ⟨connection, identity, found, isOpen, waits⟩
  | some turning =>
      rw [onClose_eq gateway hook held]
      by_cases same : handle = other
      · subst same
        cases held.symm.trans found
        rw [Connection.onClose_of_isOpen isOpen, isAttached_settle_self]
        exact ⟨isOpen, identity, List.mem_append_left _ waits⟩
      · rw [isAttached_settle_of_ne gateway _ _ same]
        exact ⟨connection, identity, found, isOpen, waits⟩

theorem IsAttached.perform (attached : gateway.IsAttached handle) (request : Call)
    (isOpen : (gateway.perform request).2.isOpen handle = true) :
    (gateway.perform request).2.IsAttached handle := by
  by_cases plain : request.IsPlain
  · exact (drifts_perform plain gateway).spares.kept handle attached isOpen
  · cases request with
    | onClose other hook => exact attached.onClose other hook
    | generate policy size =>
        refine (isAttached_congr ?_ handle).2 attached
        simp only [Gateway.perform]
        split <;> rfl
    | place | enter | join | watch | forget | stage | unstage | takeStaged | activate
    | deactivate =>
        refine (isAttached_congr ?_ handle).2 attached
        simp [Gateway.perform, Gateway.place]
    | _ => exact absurd trivial plain

/-- No script detaches a channel that it leaves open. -/
theorem IsAttached.run {α : Type} (attached : gateway.IsAttached handle) (script : Script α)
    (isOpen : (script.run gateway).2.isOpen handle = true) :
    (script.run gateway).2.IsAttached handle := by
  induction script generalizing gateway with
  | done value => exact attached
  | call request next induction =>
      rw [Script.run_call] at isOpen ⊢
      refine induction _ (attached.perform request ?_) isOpen
      refine eq_true_of_ne_false fun closed => ?_
      rw [isOpen_run_of_closed closed] at isOpen
      cases isOpen

theorem IsAttached.undergo {ids : List Identity} (attached : gateway.IsAttached handle)
    (lists : gateway.Lists ids) (occurrence : Occurrence)
    (isOpen : (gateway.undergo occurrence).isOpen handle = true) :
    (gateway.undergo occurrence).IsAttached handle := by
  cases occurrence with
  | opens id secure remote outlet =>
      obtain ⟨connection, identity, found, rest⟩ := attached
      exact ⟨connection, identity, get?_enroll_of_get? lists.absent _ found, rest⟩
  | outlet other outlet =>
      obtain ⟨connection, identity, found, was_open, waits⟩ := attached
      rcases gateway.outlet_cases other handle outlet with
        ⟨absent, -⟩ | ⟨old, new, was, is, -, life, -⟩
      · cases absent.symm.trans found
      · cases was.symm.trans found
        exact ⟨new, identity, is, by rwa [Connection.isOpen, life], by rwa [life]⟩
  | closes other => exact (Spares.close gateway other).kept handle attached isOpen
  | passes duration => exact (isAttached_congr rfl handle).2 attached
  | rings identity generation => exact (isAttached_congr rfl handle).2 attached

/-- Hooks wait for the close of attached channels only. -/
def AttachedOnly (gateway : Gateway) : Prop :=
  ∀ handle hook, gateway.Waits handle hook → gateway.IsAttached handle

theorem attachedOnly_fresh (entropy : Entropy) (expiry : Nat) :
    (fresh entropy expiry).AttachedOnly := by
  rintro handle hook ⟨connection, found, -⟩
  cases found

theorem AttachedOnly.congr {before after : Gateway} (attachedOnly : before.AttachedOnly)
    (same : after.connections = before.connections) : after.AttachedOnly :=
  fun handle hook waits => (isAttached_congr same handle).2
    (attachedOnly handle hook ((waits_congr same handle hook).1 waits))

/-- A script keeps this if it attaches whatever it registers a hook on and leaves open. -/
theorem AttachedOnly.run {α : Type} (attachedOnly : gateway.AttachedOnly) {script : Script α}
    (attaches : ∀ handle hook, .onClose handle hook ∈ script.calls gateway →
      (script.run gateway).2.isOpen handle = true → (script.run gateway).2.IsAttached handle) :
    (script.run gateway).2.AttachedOnly := by
  intro handle hook waits
  rcases waits_of_run waits with before | registered
  · exact (attachedOnly handle hook before).run script waits.isOpen
  · exact attaches handle hook registered waits.isOpen

theorem AttachedOnly.undergo {ids : List Identity} (attachedOnly : gateway.AttachedOnly)
    (lists : gateway.Lists ids) (occurrence : Occurrence) :
    (gateway.undergo occurrence).AttachedOnly := fun handle hook waits =>
  (attachedOnly handle hook (waits_of_undergo waits)).undergo lists occurrence waits.isOpen

/-- If the connection is open, nothing waits for its close. -/
def IsIdle (gateway : Gateway) (handle : Handle) : Prop :=
  ∀ connection ∈ gateway.connections.get? handle, connection.isOpen = true →
    connection.life.waiting = []

instance (gateway : Gateway) (handle : Handle) : Decidable (gateway.IsIdle handle) :=
  inferInstanceAs (Decidable (∀ connection ∈ gateway.connections.get? handle,
    connection.isOpen = true → connection.life.waiting = []))

theorem IsIdle.not_isAttached (idle : gateway.IsIdle handle) : ¬ gateway.IsAttached handle := by
  rintro ⟨connection, identity, found, isOpen, waits⟩
  rw [idle connection found isOpen] at waits
  cases waits

theorem AttachedOnly.isIdle (attachedOnly : gateway.AttachedOnly) (own : gateway.OwnHooks)
    (unattached : ¬ gateway.IsAttached handle) : gateway.IsIdle handle := by
  intro connection found isOpen
  refine List.eq_nil_iff_forall_not_mem.2 fun hook member => unattached ?_
  have owner := own handle connection found hook member
  exact attachedOnly handle hook ⟨connection, found, owner.symm, isOpen, member⟩

end PadRelay.Gateway
