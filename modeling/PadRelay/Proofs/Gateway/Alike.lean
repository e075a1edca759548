import PadRelay.Proofs.Gateway.Attached
import PadRelay.Proofs.Key.Overdue
import PadRelay.Proofs.Transcript

/-!
# Gateways that differ only in timers

Two gateways are alike if they have everything in common but their stores of staged keys, and those
show the same. A call that neither looks at the retired key of an identity nor stages for it while
there may be an overdue key answers both alike and leaves them alike.
-/

namespace PadRelay

namespace Gateway

def withStaged (gateway : Gateway) (staged : StagedKeys) : Gateway := { gateway with staged }

/-- Two gateways with everything in common but the stores of staged keys, which show the same. The
given identities have no overdue key in either. -/
inductive Alike (tidy : Identity → Prop) : Gateway → Gateway → Prop
  | intro (base : Gateway) {left right : StagedKeys} (agrees : left.Agrees tidy right base.now) :
      Alike tidy (base.withStaged left) (base.withStaged right)

end Gateway

/-- A call that looks at retired keys and stages keys only for the given identities. -/
def Call.IsTame (tidy : Identity → Prop) : Call → Prop
  | .retired identity | .stage identity _ => tidy identity
  | _ => True

namespace Gateway.Alike

variable {tidy : Identity → Prop} {left right : Gateway}

theorem connections (alike : left.Alike tidy right) : left.connections = right.connections := by
  cases alike
  rfl

theorem idOf? (alike : left.Alike tidy right) (handle : Handle) :
    left.idOf? handle = right.idOf? handle := by
  rw [Gateway.idOf?, alike.connections, Gateway.idOf?]

theorem isOpen_eq (alike : left.Alike tidy right) : left.isOpen = right.isOpen :=
  funext fun handle => isOpen_congr alike.connections handle

theorem weaken {fewer : Identity → Prop} (alike : left.Alike tidy right)
    (less : ∀ identity, fewer identity → tidy identity) : left.Alike fewer right := by
  cases alike with
  | intro base agrees => exact .intro base (agrees.weaken less)

/-- Identities without an overdue key on either side may be given. -/
theorem sharpen {more : Identity → Prop} (alike : left.Alike tidy right)
    (on_left : ∀ identity, more identity → left.staged.IsTidy left.now identity)
    (on_right : ∀ identity, more identity → right.staged.IsTidy right.now identity) :
    left.Alike more right := by
  cases alike with
  | intro base agrees =>
      exact .intro base { agrees with left_tidy := on_left, right_tidy := on_right }

/-- A gateway without keys that can be overdue is like itself. -/
theorem refl (gateway : Gateway) (positive : 0 < gateway.staged.expiry) :
    gateway.Alike (fun _ => False) gateway :=
  .intro gateway ⟨rfl, rfl, fun _ => rfl, positive, fun _ => False.elim, fun _ => False.elim⟩

theorem symm (alike : left.Alike tidy right) : right.Alike tidy left := by
  obtain ⟨base, agrees⟩ := alike
  exact .intro base agrees.symm

theorem layer (alike : left.Alike tidy right) (family : Family) :
    left.layer family = right.layer family := by
  cases alike
  cases family <;> rfl

theorem modifyLayer (alike : left.Alike tidy right) (family : Family) (change : Layer → Layer) :
    (left.modifyLayer family change).Alike tidy (right.modifyLayer family change) := by
  obtain ⟨base, agrees⟩ := alike
  cases family
  · exact .intro (base.modifyLayer .socket change) agrees
  · exact .intro (base.modifyLayer .webSocket change) agrees

theorem count (alike : left.Alike tidy right) (family : Family) (event : Event) :
    (left.count family event).Alike tidy (right.count family event) :=
  alike.modifyLayer family _

theorem onDirectory (alike : left.Alike tidy right) {α : Type} (family : Family)
    (work : Directory ChannelKey → α × Directory ChannelKey) :
    (left.onDirectory family work).1 = (right.onDirectory family work).1 ∧
      (left.onDirectory family work).2.Alike tidy (right.onDirectory family work).2 := by
  rw [onDirectory_fst, onDirectory_fst, onDirectory_snd, onDirectory_snd, alike.layer family]
  exact ⟨rfl, alike.modifyLayer family _⟩

theorem runHook (alike : left.Alike tidy right) (hook : Hook) :
    (left.runHook hook).Alike tidy (right.runHook hook) := by
  cases hook with
  | dropKeys identity =>
      obtain ⟨base, agrees⟩ := alike
      exact .intro { base with active := base.active.erase identity } (agrees.remove identity)
  | vacate family identity role connection =>
      simp only [Gateway.runHook, alike.isOpen_eq]
      exact alike.modifyLayer family _
  | forget family connection => exact (alike.onDirectory family _).2

theorem runHooks (alike : left.Alike tidy right) (hooks : List Hook) :
    (left.runHooks hooks).Alike tidy (right.runHooks hooks) := by
  induction hooks generalizing left right with
  | nil => exact alike
  | cons hook hooks induction => exact induction (alike.runHook hook)

theorem settle (alike : left.Alike tidy right) (handle : Handle) (connection : Connection Hook)
    (due : List Hook) :
    (left.settle handle connection due).Alike tidy (right.settle handle connection due) := by
  obtain ⟨base, agrees⟩ := alike
  have replaced : Alike tidy _ _ :=
    .intro { base with connections := base.connections.insert handle connection } agrees
  exact replaced.runHooks due

theorem close (alike : left.Alike tidy right) (handle : Handle) :
    (left.close handle).Alike tidy (right.close handle) := by
  cases found : left.connections.get? handle with
  | none =>
      have also := alike.connections ▸ found
      simpa only [Gateway.close, found, also] using alike
  | some connection =>
      rw [close_eq left found, close_eq right (alike.connections ▸ found)]
      exact alike.settle handle _ _

theorem onClose (alike : left.Alike tidy right) (handle : Handle) (hook : Hook) :
    (left.onClose handle hook).Alike tidy (right.onClose handle hook) := by
  cases found : left.connections.get? handle with
  | none =>
      have also := alike.connections ▸ found
      simpa only [Gateway.onClose, found, also] using alike
  | some connection =>
      rw [onClose_eq left hook found, onClose_eq right hook (alike.connections ▸ found)]
      exact alike.settle handle _ _

theorem send (alike : left.Alike tidy right) (handle : Handle) (payload : Bytes) :
    (left.send handle payload).1 = (right.send handle payload).1 ∧
      (left.send handle payload).2.Alike tidy (right.send handle payload).2 := by
  cases found : left.connections.get? handle with
  | none =>
      have also := alike.connections ▸ found
      simpa only [Gateway.send, found, also, true_and] using alike
  | some connection =>
      have also := alike.connections ▸ found
      refine ⟨by simp only [Gateway.send, found, also], ?_⟩
      rw [send_eq left payload found, send_eq right payload also]
      exact alike.settle handle _ _

theorem sealFor (alike : left.Alike tidy right) (family : Family) (identity : Identity)
    (payload : Bytes) :
    (left.sealFor family identity payload).1 = (right.sealFor family identity payload).1 ∧
      (left.sealFor family identity payload).2.Alike tidy
        (right.sealFor family identity payload).2 := by
  have same : left.active = right.active := by
    cases alike
    rfl
  simp only [Gateway.sealFor, same]
  cases right.active.get? identity with
  | none => exact ⟨rfl, alike⟩
  | some key => exact ⟨rfl, alike.count family .encrypted⟩

/-- Looking for a staged key shows the same, and leaves no overdue key. -/
theorem look (alike : left.Alike tidy right) (identity : Identity) :
    (left.perform (.staged identity)).1 = (right.perform (.staged identity)).1 ∧
      (left.perform (.staged identity)).2.Alike (fun other => tidy other ∨ other = identity)
        (right.perform (.staged identity)).2 := by
  obtain ⟨base, agrees⟩ := alike
  simp only [perform, stagedKey, onStaged_fst, onStaged_snd, StagedKeys.get_fst,
    StagedKeys.get_snd]
  exact ⟨agrees.live identity, .intro base (agrees.expireDue identity)⟩

/-- A tame call answers gateways that are alike in the same way, and leaves them alike. -/
theorem perform {request : Call} (alike : left.Alike tidy right) (tame : request.IsTame tidy) :
    (left.perform request).1 = (right.perform request).1 ∧
      (left.perform request).2.Alike tidy (right.perform request).2 := by
  cases request with
  | send handle payload => exact alike.send handle payload
  | close handle => exact ⟨rfl, alike.close handle⟩
  | onClose handle hook => exact ⟨rfl, alike.onClose handle hook⟩
  | sealFor family identity payload => exact alike.sealFor family identity payload
  | staged identity =>
      obtain ⟨same, after⟩ := alike.look identity
      exact ⟨same, after.weaken fun _ chosen => .inl chosen⟩
  | dress family recipient payload =>
      simp only [Gateway.perform, Gateway.dress, alike.layer family]
      split
      · exact alike.sealFor family recipient payload
      · exact ⟨rfl, alike⟩
  | generate policy size =>
      obtain ⟨base, agrees⟩ := alike
      simp only [Gateway.perform, withStaged]
      cases Key.generate policy size base.entropy with
      | ok drawn => exact ⟨rfl, .intro { base with entropy := drawn.2 } agrees⟩
      | error error => exact ⟨rfl, .intro base agrees⟩
  | retired identity =>
      obtain ⟨base, agrees⟩ := alike
      exact ⟨congrArg (Option.map StagedKey.key) (agrees.raw tame).2, .intro base agrees⟩
  | stage identity key =>
      obtain ⟨base, agrees⟩ := alike
      exact ⟨rfl, .intro base (agrees.put tame key)⟩
  | unstage identity =>
      obtain ⟨base, agrees⟩ := alike
      exact ⟨rfl, .intro base (agrees.remove identity)⟩
  | takeStaged identity expected =>
      obtain ⟨base, agrees⟩ := alike
      obtain ⟨same, after⟩ := agrees.takeIf identity expected
      exact ⟨congrArg (Option.map StagedKey.key) same, .intro base after⟩
  | activate identity key =>
      obtain ⟨base, agrees⟩ := alike
      exact ⟨rfl, .intro { base with active := base.active.insert identity key } agrees⟩
  | deactivate identity =>
      obtain ⟨base, agrees⟩ := alike
      exact ⟨rfl, .intro { base with active := base.active.erase identity } agrees⟩
  | isOpen | isSecure | encode | clearOf | hostMatches | active | lookup | audience =>
      obtain ⟨base, agrees⟩ := alike
      exact ⟨rfl, .intro base agrees⟩
  | count family event => exact ⟨rfl, alike.count family event⟩
  | place family identity role party =>
      simp only [Gateway.perform, Gateway.place, alike.layer family, true_and]
      exact alike.modifyLayer family _
  | enter family key party => exact alike.onDirectory family _
  | join family group party => exact alike.onDirectory family _
  | watch family id => exact alike.onDirectory family _
  | forget family id =>
      exact ⟨rfl, (alike.onDirectory family fun directory => directory.forget id).2⟩

/-- A run of tame calls ends with the same result, and leaves gateways alike. -/
theorem run {α : Type} {script : Script α} (alike : left.Alike tidy right)
    (tame : ∀ request ∈ script.calls left, request.IsTame tidy) :
    (script.run left).1 = (script.run right).1 ∧
      (script.run left).2.Alike tidy (script.run right).2 := by
  induction script generalizing left right with
  | done value => exact ⟨rfl, alike⟩
  | call request next induction =>
      obtain ⟨same, after⟩ := alike.perform (tame request List.mem_cons_self)
      rw [Script.run_call, Script.run_call, ← same]
      exact induction _ after fun later made => tame later (List.mem_cons_of_mem _ made)

end Gateway.Alike

end PadRelay
