import TrustReplica.Proofs.Maps
import TrustReplica.Store.Replica

/-! What an event does to one TMI and to one session. The record under an identifier after an event
    depends on the event and on the record before alone (`Event.onTmi`, `Event.onSession`), so a run of a
    store is a run of each record on its own (`tmi?_applyAll`, `session?_applyAll`). A TMI that is known
    stays known, and an event changes each of its fields in one way (`Event.actOn`). -/

namespace TrustReplica

namespace Event

/-- What an event makes of the record that is held of a TMI, if one is held. -/
def onTmi (f : TmiId) (e : Event) (held : Option Tmi) : Option Tmi :=
  match e with
  | spawned sn =>
    if sn.fullId = f then
      match sn.fullId.identity with
      | .ok identity => some (held.elim (.ofSpawn sn identity) fun t => t.respawn sn)
      | .error _ => held
    else held
  | updated sn => if sn.fullId = f then held.map fun t => (t.update sn).2 else held
  | deleted g => if g = f then held.map Tmi.delete else held
  | atlUpdated g _ bundle => if g = f then held.map fun t => t.setBundle bundle else held
  | _ => held

/-- What an event makes of the session that is held under an identifier, if one is held. -/
def onSession (id : SessionId) (e : Event) (held : Option Session) : Option Session :=
  match e with
  | sessionCreated i client template => if i = id then some (.create i client template) else held
  | sessionTorndown i => if i = id then held.map Session.tearDown else held
  | spawned sn =>
    match sn.fullId.identity with
    | .ok identity =>
      if identity.session = id then held.map fun session => session.link sn.fullId else held
    | .error _ => held
  | _ => held

/-- What an event makes of a TMI that is known. -/
def actOn (f : TmiId) (e : Event) (t : Tmi) : Tmi :=
  match e with
  | spawned sn => if sn.fullId = f ∧ f.identity.isOk then t.respawn sn else t
  | updated sn => if sn.fullId = f then (t.update sn).2 else t
  | deleted g => if g = f then t.delete else t
  | atlUpdated g _ bundle => if g = f then t.setBundle bundle else t
  | _ => t

/-- A TMI that is known, after many events. -/
def actOnAll (f : TmiId) (events : List Event) (t : Tmi) : Tmi :=
  events.foldl (fun t e => e.actOn f t) t

end Event

namespace Store

variable (s : Store) (e : Event) (events : List Event)

/-! ### One record at a time -/

theorem tmi?_changeTmi (g f : TmiId) (change : Tmi → Outcome × Tmi) :
    (s.changeTmi g change).2.tmi? f =
      if g = f then (s.tmi? f).map fun t => (change t).2 else s.tmi? f := by
  unfold changeTmi
  split
  · next t ht =>
    rw [tmi?, Maps.getElem?_insert]
    split_ifs with hg
    · rw [← hg, ht]; rfl
    · rfl
  · next hg =>
    split_ifs with h
    · rw [← h, hg]; rfl
    · rfl

theorem tmi?_insertTmi (t : Tmi) (f : TmiId) :
    (s.insertTmi t).tmi? f = if t.fullId = f then some t else s.tmi? f := Maps.getElem?_insert ..

theorem session?_modifySession (i id : SessionId) (change : Session → Session) :
    (s.modifySession i change).session? id =
      if i = id then (s.session? id).map change else s.session? id := by
  unfold modifySession
  split
  · next session h =>
    rw [session?, Maps.getElem?_insert]
    split_ifs with hi
    · rw [← hi, h]; rfl
    · rfl
  · next h =>
    split_ifs with hi
    · rw [← hi, h]; rfl
    · rfl

theorem tmis_modifySession (i : SessionId) (change : Session → Session) :
    (s.modifySession i change).tmis = s.tmis := by
  unfold modifySession
  split <;> rfl

theorem sessions_changeTmi (g : TmiId) (change : Tmi → Outcome × Tmi) :
    (s.changeTmi g change).2.sessions = s.sessions := by
  unfold changeTmi
  split <;> rfl

/-- The record of a TMI after an event depends on the record before alone. -/
theorem tmi?_apply (f : TmiId) : (s.apply e).2.tmi? f = e.onTmi f (s.tmi? f) := by
  cases e with
  | sessionCreated i client template => rfl
  | sessionTorndown i =>
    simp only [apply, tearDownSession, Event.onTmi]
    split
    · rw [tmi?, tmis_modifySession]; rfl
    · rfl
  | spawned sn =>
    simp only [apply, spawnTmi, Event.onTmi]
    cases hid : sn.fullId.identity with
    | error _ => simp
    | ok identity =>
      rw [tmi?, Maps.getElem?_insert]
      split_ifs with hf
      · subst hf
        rw [spawned]
        cases s.tmi? sn.fullId <;> rfl
      · rfl
  | updated sn => exact tmi?_changeTmi s sn.fullId f _
  | deleted g => exact tmi?_changeTmi s g f _
  | atlUpdated g nominal bundle => exact tmi?_changeTmi s g f _
  | atlRemoved g => rfl
  | unrecognized tag => rfl

/-- A session after an event depends on the session before alone. -/
theorem session?_apply (id : SessionId) : (s.apply e).2.session? id = e.onSession id (s.session? id) := by
  cases e with
  | sessionCreated i client template => exact Maps.getElem?_insert ..
  | sessionTorndown i =>
    simp only [apply, tearDownSession, Event.onSession]
    cases hi : s.session? i with
    | some session => exact session?_modifySession s i id _
    | none =>
      split_ifs with h
      · rw [← h, hi]; rfl
      · rfl
  | spawned sn =>
    simp only [apply, spawnTmi, Event.onSession]
    cases hid : sn.fullId.identity with
    | error _ => rfl
    | ok identity => exact session?_modifySession s identity.session id _
  | updated sn => rw [apply, session?, sessions_changeTmi]; rfl
  | deleted g => rw [apply, session?, sessions_changeTmi]; rfl
  | atlUpdated g nominal bundle => rw [apply, session?, sessions_changeTmi]; rfl
  | atlRemoved g => rfl
  | unrecognized tag => rfl

/-! ### Runs -/

theorem tmi?_applyAll (f : TmiId) :
    (s.applyAll events).tmi? f = events.foldl (fun held e => e.onTmi f held) (s.tmi? f) := by
  induction events generalizing s with
  | nil => rfl
  | cons e events ih =>
    rw [List.foldl_cons, ← tmi?_apply]
    exact ih (s.apply e).2

theorem session?_applyAll (id : SessionId) :
    (s.applyAll events).session? id =
      events.foldl (fun held e => e.onSession id held) (s.session? id) := by
  induction events generalizing s with
  | nil => rfl
  | cons e events ih =>
    rw [List.foldl_cons, ← session?_apply]
    exact ih (s.apply e).2

/-- Two stores with the same TMIs have the same TMIs after the same events. -/
theorem tmis_applyAll_congr {s s' : Store} (h : s.tmis = s'.tmis) (events : List Event) :
    (s.applyAll events).tmis = (s'.applyAll events).tmis := by
  refine Std.ExtTreeMap.ext_getElem? fun f => ?_
  have ht : s.tmi? f = s'.tmi? f := congrArg (fun tmis => tmis[f]?) h
  change (s.applyAll events).tmi? f = (s'.applyAll events).tmi? f
  rw [tmi?_applyAll, tmi?_applyAll, ht]

end Store

/-! ### Known TMIs -/

theorem Event.onTmi_some (f : TmiId) (e : Event) (t : Tmi) : e.onTmi f (some t) = some (e.actOn f t) := by
  cases e with
  | spawned sn =>
    simp only [onTmi, actOn]
    by_cases hf : sn.fullId = f
    · subst hf
      cases sn.fullId.identity <;> simp [Except.isOk, Except.toBool]
    · simp [hf]
  | updated sn => simp only [onTmi, actOn]; split_ifs <;> rfl
  | deleted g => simp only [onTmi, actOn]; split_ifs <;> rfl
  | atlUpdated g nominal bundle => simp only [onTmi, actOn]; split_ifs <;> rfl
  | sessionCreated i client template => rfl
  | sessionTorndown i => rfl
  | atlRemoved g => rfl
  | unrecognized tag => rfl

theorem Event.foldl_onTmi_some (f : TmiId) (events : List Event) (t : Tmi) :
    events.foldl (fun held e => e.onTmi f held) (some t) = some (actOnAll f events t) := by
  induction events generalizing t with
  | nil => rfl
  | cons e events ih => rw [List.foldl_cons, onTmi_some, ih]; rfl

/-- A TMI that is known stays known, and each event acts on its record. -/
theorem Store.tmi?_applyAll_of_known {s : Store} {f : TmiId} {t : Tmi} (h : s.tmi? f = some t)
    (events : List Event) : (s.applyAll events).tmi? f = some (Event.actOnAll f events t) := by
  rw [tmi?_applyAll, h, Event.foldl_onTmi_some]

end TrustReplica
