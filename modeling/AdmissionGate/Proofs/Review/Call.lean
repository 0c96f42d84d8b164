import AdmissionGate.Proofs.Failures
import AdmissionGate.Service

/-!
# Calls of the validators

A review on a kind of its route calls the validator of the route with the change
that it asks about, unless an object that the change needs cannot be read.
-/

namespace AdmissionGate

/-! ## Objects that are asked about -/

namespace ReviewRequest

def Reads {Model : Type} (request : ReviewRequest) (codec : Codec Model)
    (given : Option Object) (model : Model) : Prop :=
  ∃ object, given = some object ∧
    codec.decode? (request.placed object).toJson.canonical = some model

def needed (request : ReviewRequest) : List (Option Object) :=
  match request.operation with
  | .create => [request.object]
  | .update => [request.oldObject, request.object]
  | .delete => [request.oldObject]
  | .connect => []

/-- The change that the request asks about, if its objects can be read. -/
inductive Asks {Model : Type} (request : ReviewRequest) (codec : Codec Model) :
    Change Model → Prop where
  | create {new : Model} (operation : request.operation = .create)
      (reads : request.Reads codec request.object new) :
      Asks request codec (.create new)
  | update {old new : Model} (operation : request.operation = .update)
      (readsOld : request.Reads codec request.oldObject old)
      (readsNew : request.Reads codec request.object new) :
      Asks request codec (.update old new)
  | delete {old : Model} (operation : request.operation = .delete)
      (reads : request.Reads codec request.oldObject old) :
      Asks request codec (.delete old)

/-- As the code goes about it: the change, none for a connection, or what keeps it
from being read. -/
def change? {Model : Type} (request : ReviewRequest) (codec : Codec Model) :
    Except AdmissionError (Option (Change Model)) :=
  match request.operation with
  | .create => do
      let new ← request.decode codec request.object
      return some (.create new)
  | .update => do
      let old ← request.decode codec request.oldObject
      let new ← request.decode codec request.object
      return some (.update old new)
  | .delete => do
      let old ← request.decode codec request.oldObject
      return some (.delete old)
  | .connect => .ok none

section

variable {Model : Type} {request : ReviewRequest} {codec : Codec Model}

theorem decode_eq_ok_iff {given : Option Object} {model : Model} :
    request.decode codec given = .ok model ↔
      request.Reads codec given model := by
  cases given with
  | none => simp [decode, Reads]
  | some object =>
      simp only [decode, Reads]
      split <;> simp_all

theorem decode_eq_error {given : Option Object} {error : AdmissionError}
    (h : request.decode codec given = .error error) :
    (error = .missingObject ∨ error = .undecodable) ∧
      ¬ ∃ model, request.Reads codec given model := by
  constructor
  · unfold decode at h
    split at h
    · cases h
      exact .inl rfl
    · split at h <;> cases h
      exact .inr rfl
  · rintro ⟨model, hmodel⟩
    cases h.symm.trans (decode_eq_ok_iff.2 hmodel)

theorem change?_of_asks {change : Change Model} (asks : request.Asks codec change) :
    request.change? codec = .ok (some change) := by
  cases asks with
  | create operation reads =>
      simp only [change?, operation, decode_eq_ok_iff.2 reads]
      rfl
  | update operation readsOld readsNew =>
      simp only [change?, operation, decode_eq_ok_iff.2 readsOld,
        decode_eq_ok_iff.2 readsNew]
      rfl
  | delete operation reads =>
      simp only [change?, operation, decode_eq_ok_iff.2 reads]
      rfl

theorem change?_connect (operation : request.operation = .connect) :
    request.change? codec = .ok none := by
  simp only [change?, operation]

theorem Asks.reads_needed {change : Change Model}
    (asks : request.Asks codec change) :
    ∀ given ∈ request.needed, ∃ model, request.Reads codec given model := by
  cases asks with
  | create operation reads => simp [needed, operation, Exists.intro _ reads]
  | update operation readsOld readsNew =>
      simp [needed, operation, Exists.intro _ readsOld,
        Exists.intro _ readsNew]
  | delete operation reads => simp [needed, operation, Exists.intro _ reads]

def Unreadable (request : ReviewRequest) (codec : Codec Model) : Prop :=
  (∃ given ∈ request.needed, ¬ ∃ model, request.Reads codec given model) ∧
    ∃ error, (error = .missingObject ∨ error = .undecodable) ∧
      request.change? codec = .error error

theorem unreadable_of_decode {given : Option Object} {error : AdmissionError}
    (h : request.decode codec given = .error error)
    (hgiven : given ∈ request.needed)
    (hchange : request.change? codec = .error error) :
    request.Unreadable codec := by
  obtain ⟨herror, hunread⟩ := decode_eq_error h
  exact ⟨⟨given, hgiven, hunread⟩, error, herror, hchange⟩

theorem change?_cases (request : ReviewRequest) (codec : Codec Model) :
    request.operation = .connect ∨ (∃ change, request.Asks codec change) ∨
      request.Unreadable codec := by
  cases operation : request.operation with
  | connect => exact .inl rfl
  | create =>
      cases hnew : request.decode codec request.object with
      | ok new =>
          exact .inr (.inl ⟨_, .create operation (decode_eq_ok_iff.1 hnew)⟩)
      | error error =>
          refine .inr (.inr (unreadable_of_decode hnew ?_ ?_))
          · simp [needed, operation]
          · simp only [change?, operation, hnew]
            rfl
  | update =>
      cases hold : request.decode codec request.oldObject with
      | ok old =>
          cases hnew : request.decode codec request.object with
          | ok new =>
              exact .inr (.inl ⟨_, .update operation (decode_eq_ok_iff.1 hold)
                (decode_eq_ok_iff.1 hnew)⟩)
          | error error =>
              refine .inr (.inr (unreadable_of_decode hnew ?_ ?_))
              · simp [needed, operation]
              · simp only [change?, operation, hold, hnew]
                rfl
      | error error =>
          refine .inr (.inr (unreadable_of_decode hold ?_ ?_))
          · simp [needed, operation]
          · simp only [change?, operation, hold]
            rfl
  | delete =>
      cases hold : request.decode codec request.oldObject with
      | ok old =>
          exact .inr (.inl ⟨_, .delete operation (decode_eq_ok_iff.1 hold)⟩)
      | error error =>
          refine .inr (.inr (unreadable_of_decode hold ?_ ?_))
          · simp [needed, operation]
          · simp only [change?, operation, hold]
            rfl

end
end ReviewRequest

/-! ## Calls of the validators -/

def Route.Serves : Route → String → Prop
  | .opsRequests, name => ∃ engine : Engine, engine.opsKind = name
  | .schemas, name => ∃ kind : SchemaKind, kind.kind = name

inductive ReviewRequest.Calls (request : ReviewRequest) :
    Route → AdmissionCall → Prop where
  | ops {engine : Engine} {change : Change OpsRequest}
      (hkind : engine.opsKind = request.kind.kind)
      (asks : request.Asks OpsRequest.codec change) :
      Calls request .opsRequests (.ops engine change)
  | schema {kind : SchemaKind} {change : Change SchemaRequest}
      (hkind : kind.kind = request.kind.kind)
      (asks : request.Asks SchemaRequest.codec change) :
      Calls request .schemas (.schema kind change)

def ReviewRequest.Readable (request : ReviewRequest) (given : Option Object) :
    Route → Prop
  | .opsRequests => ∃ model, request.Reads OpsRequest.codec given model
  | .schemas => ∃ model, request.Reads SchemaRequest.codec given model

def Verdict.ofChange {Model : Type}
    (change? : Except AdmissionError (Option (Change Model)))
    (verdict : Change Model → Verdict) : Verdict :=
  match change? with
  | .error error => .error error
  | .ok none => .ok []
  | .ok (some change) => verdict change

namespace ReviewRequest

variable {request : ReviewRequest} {store : ObjectStore}

theorem admitOps_of_kind {engine : Engine}
    (hkind : engine.opsKind = request.kind.kind) :
    request.admitOps store = Verdict.ofChange (request.change? OpsRequest.codec)
      fun change => (AdmissionCall.ops engine change).verdict store := by
  unfold admitOps change?
  rw [← hkind, Engine.ofOpsKind?_opsKind]
  cases request.operation <;>
    cases request.decode OpsRequest.codec request.oldObject <;>
    cases request.decode OpsRequest.codec request.object <;>
    simp only [Verdict.ofChange, AdmissionCall.verdict, bind, Except.bind, pure,
      Except.pure]

theorem admitSchema_of_kind {kind : SchemaKind}
    (hkind : kind.kind = request.kind.kind) :
    request.admitSchema store =
      Verdict.ofChange (request.change? SchemaRequest.codec)
        fun change => (AdmissionCall.schema kind change).verdict store := by
  unfold admitSchema change?
  rw [← hkind, SchemaKind.ofKind?_kind]
  cases request.operation <;>
    cases request.decode SchemaRequest.codec request.oldObject <;>
    cases request.decode SchemaRequest.codec request.object <;>
    simp only [Verdict.ofChange, AdmissionCall.verdict, bind, Except.bind, pure,
      Except.pure]

theorem Calls.serves {route : Route} {call : AdmissionCall}
    (calls : request.Calls route call) : route.Serves request.kind.kind := by
  cases calls with
  | ops hkind _ => exact ⟨_, hkind⟩
  | schema hkind _ => exact ⟨_, hkind⟩

theorem Calls.readable {route : Route} {call : AdmissionCall}
    (calls : request.Calls route call) :
    ∀ given ∈ request.needed, request.Readable given route := by
  cases calls with
  | ops _ asks => exact asks.reads_needed
  | schema _ asks => exact asks.reads_needed

end ReviewRequest

/-! ## Verdicts of a route -/

namespace Route

variable {route : Route} {request : ReviewRequest} {store : ObjectStore}

theorem verdict_of_calls {call : AdmissionCall}
    (calls : request.Calls route call) :
    route.verdict request store = call.verdict store := by
  cases calls with
  | ops hkind asks =>
      rw [verdict, ReviewRequest.admitOps_of_kind hkind,
        ReviewRequest.change?_of_asks asks, Verdict.ofChange]
  | schema hkind asks =>
      rw [verdict, ReviewRequest.admitSchema_of_kind hkind,
        ReviewRequest.change?_of_asks asks, Verdict.ofChange]

theorem verdict_of_not_serves (unknown : ¬ route.Serves request.kind.kind) :
    route.verdict request store = .error (.unknownKind request.kind.kind) := by
  cases route with
  | opsRequests =>
      cases hkind : Engine.ofOpsKind? request.kind.kind with
      | none => simp only [verdict, ReviewRequest.admitOps, hkind]
      | some engine =>
          exact absurd ⟨engine, by simpa using List.find?_some hkind⟩ unknown
  | schemas =>
      cases hkind : SchemaKind.ofKind? request.kind.kind with
      | none => simp only [verdict, ReviewRequest.admitSchema, hkind]
      | some kind =>
          exact absurd ⟨kind, by simpa using List.find?_some hkind⟩ unknown

theorem verdict_of_connect (serves : route.Serves request.kind.kind)
    (operation : request.operation = .connect) :
    route.verdict request store = .ok [] := by
  cases route with
  | opsRequests =>
      obtain ⟨engine, hkind⟩ := serves
      rw [verdict, ReviewRequest.admitOps_of_kind hkind,
        ReviewRequest.change?_connect operation, Verdict.ofChange]
  | schemas =>
      obtain ⟨kind, hkind⟩ := serves
      rw [verdict, ReviewRequest.admitSchema_of_kind hkind,
        ReviewRequest.change?_connect operation, Verdict.ofChange]

/-- On a kind of the route the validator is called unless there is nothing to ask
it or something that it needs cannot be read. -/
theorem verdict_cases (serves : route.Serves request.kind.kind)
    (store : ObjectStore) :
    request.operation = .connect ∨ (∃ call, request.Calls route call) ∨
      (∃ given ∈ request.needed, ¬ request.Readable given route) ∧
        ∃ error, (error = .missingObject ∨ error = .undecodable) ∧
          route.verdict request store = .error error := by
  cases route with
  | opsRequests =>
      obtain ⟨engine, hkind⟩ := serves
      rw [verdict, ReviewRequest.admitOps_of_kind hkind]
      rcases request.change?_cases OpsRequest.codec with operation |
        ⟨change, asks⟩ | ⟨hneeded, error, herror, hchange⟩
      · exact .inl operation
      · exact .inr (.inl ⟨_, .ops hkind asks⟩)
      · exact .inr (.inr ⟨hneeded, error, herror, by rw [hchange, Verdict.ofChange]⟩)
  | schemas =>
      obtain ⟨kind, hkind⟩ := serves
      rw [verdict, ReviewRequest.admitSchema_of_kind hkind]
      rcases request.change?_cases SchemaRequest.codec with operation |
        ⟨change, asks⟩ | ⟨hneeded, error, herror, hchange⟩
      · exact .inl operation
      · exact .inr (.inl ⟨_, .schema hkind asks⟩)
      · exact .inr (.inr ⟨hneeded, error, herror, by rw [hchange, Verdict.ofChange]⟩)

theorem verdict_eq_ok {warnings : Warnings}
    (h : route.verdict request store = .ok warnings) :
    route.Serves request.kind.kind ∧
      (request.operation = .connect ∨
        ∃ call, request.Calls route call ∧ call.verdict store = .ok warnings) := by
  by_cases serves : route.Serves request.kind.kind
  · refine ⟨serves, ?_⟩
    rcases verdict_cases serves store with operation | ⟨call, calls⟩ |
      ⟨-, error, -, hverdict⟩
    · exact .inl operation
    · exact .inr ⟨call, calls, (verdict_of_calls calls).symm.trans h⟩
    · cases hverdict.symm.trans h
  · cases (verdict_of_not_serves serves).symm.trans h

theorem verdict_eq_error {error : AdmissionError}
    (h : route.verdict request store = .error error) :
    (error = .unknownKind request.kind.kind ∨ error = .missingObject ∨
        error = .undecodable) ∨
      ∃ call, request.Calls route call ∧ call.verdict store = .error error := by
  by_cases serves : route.Serves request.kind.kind
  · rcases verdict_cases serves store with operation | ⟨call, calls⟩ |
      ⟨-, unread, hunread, hverdict⟩
    · cases (verdict_of_connect serves operation).symm.trans h
    · exact .inr ⟨call, calls, (verdict_of_calls calls).symm.trans h⟩
    · cases hverdict.symm.trans h
      exact .inl (.inr hunread)
  · cases (verdict_of_not_serves serves).symm.trans h
    exact .inl (.inl rfl)

end Route

end AdmissionGate
