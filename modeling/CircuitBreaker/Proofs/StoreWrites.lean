import CircuitBreaker.Proofs.Intents

/-!
# Writes to a framed store

A record that fits is saved, loads again and touches no byte outside its frame; one that does not
fit is refused before anything is written. The frames of the three records of settings and of the
intent lie apart, so that each of them keeps what was last written to it through any writes to the
others.
-/

set_option autoImplicit false

namespace CircuitBreaker

/-!
## Single saves
-/

namespace FramedStore

open LawfulStorage

variable {ρ : Type} [Storage ρ] {store after : FramedStore ρ} {offset : Nat} {payload : Bytes}

theorem save_of_unfit (addressed : store.Addressed)
    (unfit : ¬ (payload.length ≤ Frame.maxPayload ∧ store.Fits offset payload.length)) :
    store.save offset payload =
      .error (if Frame.maxPayload < payload.length then .sizeMismatch else .outOfRange) := by
  rw [save, run_saving]
  by_cases long : Frame.maxPayload < payload.length
  · rw [if_pos long, if_pos long]
  · rw [if_neg long, if_neg long]
    cases found : store.address? offset payload.length with
    | none => rfl
    | some address =>
        exact absurd ⟨Nat.le_of_not_lt long, addressed.fits found⟩ unfit

variable [LawfulStorage ρ]

/-- What an accepted save comes from, and what it does to the bytes. -/
theorem saved (works : Works store.storage) (addressed : store.Addressed)
    (accepted : store.save offset payload = .ok after) :
    (payload.length ≤ Frame.maxPayload ∧ store.Fits offset payload.length) ∧
      Works after.storage ∧ after.base = store.base ∧
      (contents store.storage).overwrite? (store.base + offset) (Frame.encode payload) =
        some (contents after.storage) := by
  by_cases fit : payload.length ≤ Frame.maxPayload ∧ store.Fits offset payload.length
  · obtain ⟨written, again, still, base, bytes⟩ := save_spec works fit.1 fit.2
    obtain rfl : written = after := Except.ok.inj (again.symm.trans accepted)
    exact ⟨fit, still, base, bytes⟩
  · rw [save_of_unfit addressed fit] at accepted
    cases accepted

end FramedStore

/-!
## Regions of the store
-/

inductive Region where
  | settings (kind : ConfigSection)
  | intent
deriving DecidableEq, Repr

namespace Region

def offset : Region → Nat
  | settings kind => Settings.offset kind
  | intent => Intent.offset

def size : Region → Nat
  | settings .tripCurve => Record.size CurveSettings
  | settings .recovery => Record.size RecoverySettings
  | settings .modulation => Record.size ModulationSettings
  | intent => 1

theorem apart {first second : Region} (different : first ≠ second) :
    first.offset + Frame.headerSize + first.size ≤ second.offset ∨
      second.offset + Frame.headerSize + second.size ≤ first.offset := by
  revert different
  rcases first with (_ | _ | _) | _ <;> rcases second with (_ | _ | _) | _ <;> decide

end Region

theorem Settings.length_encode (settings : Settings) :
    settings.encode.length = (Region.settings settings.kind).size := by
  cases settings with
  | curve settings => exact settings.length_encode
  | recovery settings => rfl
  | modulation settings => rfl

private theorem map_restore {κ α : Type} [RecordStore κ] [Record α] (store : κ)
    (wrap : α → Settings) :
    (restore store α).map wrap =
      match RecordStore.load store (Record.offset α) (Record.size α) with
      | .error error => .error (.store error)
      | .ok payload =>
          ((Record.decode payload).map wrap).mapError fun _ => .invalid (Record.kind α) := by
  unfold restore
  cases RecordStore.load store (Record.offset α) (Record.size α) with
  | error error => rfl
  | ok payload =>
      dsimp only
      cases (Record.decode payload : Except ConfigError α) <;> rfl

theorem Settings.restore_eq {κ : Type} [RecordStore κ] (store : κ) (kind : ConfigSection) :
    Settings.restore store kind =
      match RecordStore.load store (Region.settings kind).offset (Region.settings kind).size with
      | .error error => .error (.store error)
      | .ok payload => (Settings.decode kind payload).mapError fun _ => .invalid kind := by
  cases kind with
  | tripCurve => exact map_restore store Settings.curve
  | recovery => exact map_restore store Settings.recovery
  | modulation => exact map_restore store Settings.modulation

def Settings.reread (settings : Settings) : Except RestoreError Settings :=
  (Settings.decode settings.kind settings.encode).mapError fun _ => .invalid settings.kind

inductive StoreWrite where
  | settings (value : Settings)
  | intent (value : Intent)
deriving DecidableEq, Repr

namespace StoreWrite

def region : StoreWrite → Region
  | settings value => .settings value.kind
  | intent _ => .intent

def payload : StoreWrite → Bytes
  | settings value => value.encode
  | intent value => [value.code]

def settingsOf? (kind : ConfigSection) : StoreWrite → Option Settings
  | settings value => if value.kind = kind then some value else none
  | intent _ => none

def intent? : StoreWrite → Option Intent
  | settings _ => none
  | intent value => some value

def perform {κ : Type} [RecordStore κ] (store : κ) : StoreWrite → Except StoreError κ
  | settings value => value.persist store
  | intent value => value.save store

section Routines

variable {ρ : Type} [Storage ρ]

/-- A write where the store stands. An intent that is stored already is not written again. -/
def routine : StoreWrite → EStateM StoreError (FramedStore ρ) Unit
  | settings value => FramedStore.saving (Settings.offset value.kind) value.encode
  | intent value => do
      match RecordStore.load (← get) Intent.offset 1 with
      | .ok [code] =>
          if code = value.code then pure () else FramedStore.saving Intent.offset [value.code]
      | _ => FramedStore.saving Intent.offset [value.code]

end Routines

end StoreWrite

/-!
## Runs of writes
-/

namespace FramedStore

open LawfulStorage

variable {ρ : Type} [Storage ρ]

def accepted (store : FramedStore ρ) : List StoreWrite → List StoreWrite
  | [] => []
  | write :: rest =>
      match write.routine.run store with
      | .ok _ after => write :: after.accepted rest
      | .error _ after => after.accepted rest

variable [LawfulStorage ρ] {store after : FramedStore ρ} {write : StoreWrite}

/-- What an accepted write leaves behind. -/
structure Written (store : FramedStore ρ) (write : StoreWrite) (after : FramedStore ρ) : Prop where
  works : Works after.storage
  addressed : after.Addressed
  loads : after.load write.region.offset write.region.size = .ok write.payload
  others : ∀ region, region ≠ write.region →
    after.load region.offset region.size = store.load region.offset region.size

/-- Each region is read as the write has left it. -/
theorem Written.reads (written : store.Written write after) :
    (∀ kind, Settings.restore after kind =
      ((write.settingsOf? kind).map Settings.reread).getD (Settings.restore store kind)) ∧
    Intent.load after = write.intent?.getD (Intent.load store) := by
  obtain ⟨_, _, loaded, others⟩ := written
  have restored (kind : ConfigSection) (other : Region.settings kind ≠ write.region) :
      Settings.restore after kind = Settings.restore store kind := by
    have same : RecordStore.load after (Region.settings kind).offset (Region.settings kind).size =
        RecordStore.load store (Region.settings kind).offset (Region.settings kind).size :=
      others _ other
    rw [Settings.restore_eq, Settings.restore_eq, same]
  cases write with
  | settings value =>
      constructor
      · intro kind
        by_cases own : value.kind = kind
        · subst own
          have loaded : RecordStore.load after (Region.settings value.kind).offset
              (Region.settings value.kind).size = .ok value.encode := loaded
          rw [StoreWrite.settingsOf?, if_pos rfl, Settings.restore_eq, loaded]
          rfl
        · rw [StoreWrite.settingsOf?, if_neg own]
          exact restored kind fun same => own (Region.settings.inj same).symm
      · have same : RecordStore.load after Intent.offset 1 =
            RecordStore.load store Intent.offset 1 :=
          others .intent (by simp [StoreWrite.region])
        unfold Intent.load
        rw [same]
        rfl
  | intent value =>
      exact ⟨fun kind => restored kind (by simp [StoreWrite.region]), Intent.load_of_stored loaded⟩

end FramedStore

end CircuitBreaker
