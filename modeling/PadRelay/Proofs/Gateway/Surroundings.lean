import PadRelay.Proofs.Gateway.Occurrence
import PadRelay.Proofs.Gateway.Ownership

/-!
# Soundness around the handlers

What happens around the handlers, and the end, leave a sound gateway sound: nothing enters a table,
and a connection that changes keeps what waits on it, or has it run.
-/

namespace PadRelay.Gateway

variable {gateway : Gateway} {due : List Hook} {entering : Option Handle}

theorem sound_fresh (entropy : Entropy) (expiry : Nat) : (fresh entropy expiry).Sound [] none where
  promises hook needs := by
    cases hook with
    | dropKeys identity => exact absurd (keyless_fresh entropy expiry identity) needs
    | vacate family identity role connection =>
        obtain ⟨party, found, -⟩ := needs
        cases family <;> cases found
    | forget family connection =>
        cases family <;> exact absurd needs (Directory.not_mentions_empty connection)
  knows party names := by
    cases names with
    | @slot family identity role found => cases family <;> cases found
    | @directory family names =>
        cases family <;>
          exact absurd (names.mentions Directory.linked_empty)
            (Directory.not_mentions_empty party.id)
  linked family := by cases family <;> exact Directory.linked_empty
  welcomed family identity party found := by cases family <;> cases found
  own handle connection found := by cases found

theorem get?_enroll_of_get? (absent : gateway.connections.get? gateway.connections.size = none)
    (connection : Connection Hook) {handle : Handle} {old : Connection Hook}
    (found : gateway.connections.get? handle = some old) :
    (gateway.enroll connection).2.connections.get? handle = some old := by
  refine (Table.get?_insert_of_ne _ _ ?_).trans found
  rintro rfl
  rw [absent] at found
  cases found

theorem OwnHooks.enroll (own : gateway.OwnHooks) {connection : Connection Hook}
    (idle : connection.life.waiting = []) : (gateway.enroll connection).2.OwnHooks := by
  intro handle held found hook member
  simp only [Gateway.enroll, Table.get?_insert] at found
  split at found
  · cases found
    rw [idle] at member
    cases member
  · exact own handle held found hook member

theorem Sound.enroll (sound : gateway.Sound due entering)
    (absent : gateway.connections.get? gateway.connections.size = none)
    {connection : Connection Hook} (idle : connection.life.waiting = []) :
    (gateway.enroll connection).2.Sound due entering := by
  refine sound.of_connections ?_ ?_ ?_ (sound.own.enroll idle)
  · intro handle hook waits
    obtain ⟨old, found, rest⟩ := waits
    exact ⟨old, get?_enroll_of_get? absent connection found, rest⟩
  · intro party known
    obtain ⟨old, found, same⟩ := known.exists_connection
    exact (congrArg (Option.map Connection.id)
      (get?_enroll_of_get? absent connection found)).trans (congrArg some same)
  · intro party known isOpen
    obtain ⟨old, found, -⟩ := known.exists_connection
    rw [isOpen_eq found]
    exact (isOpen_eq (get?_enroll_of_get? absent connection found)).symm.trans isOpen

/-- What the other end of an outlet does changes nothing about a connection but its outlet. -/
theorem outlet_cases (handle other : Handle) (outlet : Outlet) :
    (gateway.connections.get? other = none ∧
        (gateway.undergo (.outlet handle outlet)).connections.get? other = none) ∨
      ∃ old new : Connection Hook, gateway.connections.get? other = some old ∧
        (gateway.undergo (.outlet handle outlet)).connections.get? other = some new ∧
        new.id = old.id ∧ new.life = old.life ∧ new.secure = old.secure := by
  simp only [undergo, Table.get?_modify]
  cases gateway.connections.get? other with
  | none => exact .inl ⟨rfl, by split <;> rfl⟩
  | some old =>
      refine .inr ⟨old, if other = handle then { old with outlet } else old, rfl, ?_⟩
      split <;> exact ⟨rfl, rfl, rfl, rfl⟩

theorem OwnHooks.outlet (own : gateway.OwnHooks) (handle : Handle) (outlet : Outlet) :
    (gateway.undergo (.outlet handle outlet)).OwnHooks := by
  intro other held found hook member
  rcases gateway.outlet_cases handle other outlet with
    ⟨-, absent⟩ | ⟨old, new, was, is, id, life, -⟩
  · cases absent.symm.trans found
  · cases is.symm.trans found
    rw [life] at member
    exact (own other old was hook member).trans id.symm

theorem Sound.outlet (sound : gateway.Sound [] none) (handle : Handle) (outlet : Outlet) :
    (gateway.undergo (.outlet handle outlet)).Sound [] none := by
  refine sound.of_connections ?_ ?_ ?_ (sound.own.outlet handle outlet)
  · intro other hook waits
    obtain ⟨connection, found, owner, isOpen, waiting⟩ := waits
    rcases gateway.outlet_cases handle other outlet with
      ⟨absent, -⟩ | ⟨old, new, was, is, id, life, -⟩
    · rw [found] at absent
      cases absent
    · cases found.symm.trans was
      exact ⟨new, is, id.trans owner, by rwa [Connection.isOpen, life], by rwa [life]⟩
  · intro party known
    rcases gateway.outlet_cases handle party.handle outlet with
      ⟨absent, -⟩ | ⟨old, new, was, is, id, -⟩
    · simp [Knows, idOf?, absent] at known
    · rw [Knows, idOf?, was] at known
      exact (congrArg (Option.map Connection.id) is).trans
        ((congrArg some id).trans known)
  · intro party known isOpen
    rcases gateway.outlet_cases handle party.handle outlet with
      ⟨absent, -⟩ | ⟨old, new, was, is, -, life, -⟩
    · simp [Knows, idOf?, absent] at known
    · rw [isOpen_eq was, Connection.isOpen, ← life]
      exact (isOpen_eq is).symm.trans isOpen

theorem Sound.undergo {ids : List Identity} (sound : gateway.Sound [] none)
    (lists : gateway.Lists ids) (occurrence : Occurrence) :
    (gateway.undergo occurrence).Sound [] none := by
  cases occurrence with
  | opens id secure remote outlet => exact sound.enroll lists.absent rfl
  | outlet handle outlet => exact sound.outlet handle outlet
  | closes handle => exact sound.close handle
  | passes duration =>
      exact sound.of_fewer rfl (fun _ keyless => keyless) (fun _ _ _ _ found => found) fun _ => rfl
  | rings identity generation =>
      refine sound.of_fewer rfl ?_ (fun _ _ _ _ found => found) fun _ => rfl
      intro other keyless
      rcases gateway.staged.ring_eq gateway.now identity generation with same | same
      · simpa only [Gateway.undergo, same] using keyless
      · simp only [Gateway.undergo, same]
        exact keyless.look identity

theorem Sound.dropState (sound : gateway.Sound due entering) (family : Family) :
    (gateway.dropState family).Sound due entering := by
  apply sound.of_fewer (by simp [Gateway.dropState])
  · intro identity _
    simp [Keyless, Gateway.dropState, StagedKeys.clear]
  · intro other identity role party found
    simp only [Gateway.dropState, slot_modifyLayer] at found
    split at found
    · cases found
    · cases other <;> exact found
  · intro other
    simp only [Gateway.dropState, layer_modifyLayer]
    split <;> cases other <;> rfl

theorem Sound.closeEach (sound : gateway.Sound [] entering) (parties : List Party) :
    (gateway.closeEach parties).Sound [] entering := by
  induction parties generalizing gateway with
  | nil => exact sound
  | cons party parties induction => exact induction (sound.close party.handle)

theorem Sound.shutdown (sound : gateway.Sound [] entering) :
    gateway.shutdown.Sound [] entering := by
  have layers {state : Gateway} (sound : state.Sound [] entering) (family : Family) :
      (state.shutdownLayer family).Sound [] entering := (sound.dropState family).closeEach _
  have both := layers (layers sound .socket) .webSocket
  rw [Gateway.shutdown]
  generalize (gateway.shutdownLayer .socket).shutdownLayer .webSocket = state at both
  refine both.of_fewer rfl (fun _ _ => ⟨rfl, rfl, rfl⟩) ?_ ?_
  · intro family _ _ _ found
    cases family <;> exact found
  · intro family
    cases family <;> rfl

theorem Sound.isOpen_of_needs (sound : gateway.Sound [] entering) {ids : List Identity}
    (lists : gateway.Lists ids) (distinct : ids.Nodup) {party : Party}
    (known : gateway.Knows party) (hook : Hook) (needs : gateway.Needs hook)
    (own : hook.owner = party.id) : gateway.isOpen party.handle = true := by
  obtain ⟨handle, waits⟩ := sound.exists_waits hook needs
  have present : gateway.idOf? handle = some party.id := own ▸ waits.idOf?_eq
  have same : handle = party.handle := lists.handle_eq distinct present known
  exact same ▸ waits.isOpen

end PadRelay.Gateway
