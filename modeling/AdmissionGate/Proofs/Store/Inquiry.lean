import AdmissionGate.Store

/-!
# Inquiries

An inquiry looks at one object after another and may choose the next by what it
was told.  Run on a store it ends with its result or with the first failure that
it meets, and it leaves a list of what it looked at.
-/

namespace AdmissionGate

/-! ## Reads of one place -/

namespace ObjectStore

variable {left right : ObjectStore} {key : ObjectKey}

theorem find?_congr (agree : left key = right key) :
    left.find? key = right.find? key := by
  simp only [find?, agree]

theorem resolve_congr {Model : Type} {codec : Codec Model}
    (agree : left key = right key) :
    left.resolve codec key = right.resolve codec key := by
  simp only [resolve, find?_congr agree]

theorem hasSecret_congr {namespaceName name : String}
    (agree : left (.secret namespaceName name) =
      right (.secret namespaceName name)) :
    left.hasSecret namespaceName name = right.hasSecret namespaceName name := by
  simp only [hasSecret, find?_congr agree]

/-- The failure of a read of an object that must be acceptable.  That there is
no object is none. -/
def failure? (store : ObjectStore) (key : ObjectKey) (accepts : Object → Bool) :
    Option StoreError :=
  match store key with
  | .ok object => if accepts object then none else some key.undecodable
  | .error (.notFound _ _) => none
  | .error error => some error

variable {store : ObjectStore} {error : StoreError}

theorem resolve_eq_error_iff {Model : Type} {codec : Codec Model} :
    store.resolve codec key = .error error ↔
      store.failure? key
        (fun object => (codec.decode? object.toJson.canonical).isSome) =
          some error := by
  unfold resolve find? failure?
  cases store key with
  | ok object =>
      cases hread : codec.decode? object.toJson.canonical <;> simp [hread]
  | error other => cases other <;> simp

theorem hasSecret_eq_error_iff {namespaceName name : String} :
    store.hasSecret namespaceName name = .error error ↔
      store.failure? (.secret namespaceName name) (fun _ => true) =
        some error := by
  unfold hasSecret find? failure?
  cases store (.secret namespaceName name) with
  | ok object => simp [Except.map]
  | error other => cases other <;> simp [Except.map]

theorem failure?_eq_none_iff {accepts : Object → Bool} :
    store.failure? key accepts = none ↔
      (∃ object, store key = .ok object ∧ accepts object = true) ∨
        ∃ kind name, store key = .error (.notFound kind name) := by
  unfold failure?
  cases store key with
  | ok object => simp
  | error other => cases other <;> simp

theorem failure?_ne_notFound {accepts : Object → Bool} (kind name : String) :
    store.failure? key accepts ≠ some (.notFound kind name) := by
  unfold failure?
  cases store key with
  | ok object => cases accepts object <;> simp [ObjectKey.undecodable]
  | error other => cases other <;> simp

/-- The store as it is but for one place, where it cannot be reached. -/
def losing (store : ObjectStore) (key : ObjectKey) (message : String) :
    ObjectStore :=
  fun other => if other = key then .error (.unavailable message) else store other

theorem failure?_losing {message : String} {accepts : Object → Bool} :
    (store.losing key message).failure? key accepts =
      some (.unavailable message) := by
  simp [failure?, losing]

end ObjectStore

/-! ## Looks -/

inductive Look where
  | database (engine : Engine) (namespaceName name : String)
  | version (engine : Engine) (name : String)
  | secret (namespaceName name : String)
deriving DecidableEq, Repr

namespace Look

def key : Look → ObjectKey
  | .database engine namespaceName name => .database engine namespaceName name
  | .version engine name => .version engine name
  | .secret namespaceName name => .secret namespaceName name

/-- Whether an object is what it should be.  Of a secret only its existence
matters. -/
def accepts : Look → Object → Bool
  | .database _ _ _, object =>
      (Database.codec.decode? object.toJson.canonical).isSome
  | .version _ _, object =>
      (CatalogVersion.codec.decode? object.toJson.canonical).isSome
  | .secret _ _, _ => true

def failure? (look : Look) (store : ObjectStore) : Option StoreError :=
  store.failure? look.key look.accepts

abbrev Answer : Look → Type
  | .database _ _ _ => Option Database
  | .version _ _ => Option CatalogVersion
  | .secret _ _ => Bool

def answer (store : ObjectStore) : (look : Look) → Except StoreError look.Answer
  | .database engine namespaceName name =>
      store.database? engine namespaceName name
  | .version engine name => store.version? engine name
  | .secret namespaceName name => store.hasSecret namespaceName name

variable {store left right : ObjectStore} {look : Look} {error : StoreError}

theorem answer_eq_error_iff :
    look.answer store = .error error ↔ look.failure? store = some error := by
  cases look with
  | database _ _ _ => exact ObjectStore.resolve_eq_error_iff
  | version _ _ => exact ObjectStore.resolve_eq_error_iff
  | secret _ _ => exact ObjectStore.hasSecret_eq_error_iff

theorem answer_congr (agree : left look.key = right look.key) :
    look.answer left = look.answer right := by
  cases look with
  | database _ _ _ => exact ObjectStore.resolve_congr agree
  | version _ _ => exact ObjectStore.resolve_congr agree
  | secret _ _ => exact ObjectStore.hasSecret_congr agree

theorem answer_losing {key : ObjectKey} (h : look.key = key) (message : String) :
    look.answer (store.losing key message) = .error (.unavailable message) := by
  subst h
  exact answer_eq_error_iff.2 ObjectStore.failure?_losing

theorem answer_losing_of_ne {key : ObjectKey} (h : look.key ≠ key)
    (message : String) :
    look.answer (store.losing key message) = look.answer store :=
  answer_congr (if_neg h)

end Look

/-! ## Inquiries -/

inductive Inquiry (Result : Type) where
  | done (result : Result)
  | ask (look : Look) (next : look.Answer → Inquiry Result)

namespace Inquiry

variable {Result Other : Type}

def bind (inquiry : Inquiry Result) (next : Result → Inquiry Other) :
    Inquiry Other :=
  match inquiry with
  | done result => next result
  | ask look further => ask look fun answer => (further answer).bind next

def run (store : ObjectStore) : Inquiry Result → Except StoreError Result
  | done result => .ok result
  | ask look next =>
      match look.answer store with
      | .ok answer => (next answer).run store
      | .error error => .error error

def looks (store : ObjectStore) : Inquiry Result → List Look
  | done _ => []
  | ask look next =>
      look ::
        match look.answer store with
        | .ok answer => (next answer).looks store
        | .error _ => []

variable {inquiry : Inquiry Result} {store left right : ObjectStore}

theorem run_bind (next : Result → Inquiry Other) :
    (inquiry.bind next).run store =
      inquiry.run store >>= fun result => (next result).run store := by
  induction inquiry with
  | done result => rfl
  | ask look further ih =>
      rw [bind, run, run]
      cases look.answer store with
      | ok answer => exact ih answer
      | error error => rfl

/-! ### Failures -/

theorem run_cases (inquiry : Inquiry Result) (store : ObjectStore) :
    (∃ error, inquiry.run store = .error error ∧
      (inquiry.looks store).findSome? (·.failure? store) = some error) ∨
    (∃ result, inquiry.run store = .ok result ∧
      ∀ look ∈ inquiry.looks store, look.failure? store = none) := by
  induction inquiry with
  | done result => exact .inr ⟨result, rfl, by simp [looks]⟩
  | ask look next ih =>
      cases hanswer : look.answer store with
      | error error =>
          have hfailure := Look.answer_eq_error_iff.1 hanswer
          refine .inl ⟨error, by simp only [run, hanswer], ?_⟩
          simp only [looks, List.findSome?_cons, hfailure]
      | ok answer =>
          have hnone : look.failure? store = none := by
            refine Option.eq_none_iff_forall_not_mem.2 fun error herror => ?_
            rw [Look.answer_eq_error_iff.2 herror] at hanswer
            cases hanswer
          simp only [run, looks, hanswer, List.findSome?_cons, hnone,
            List.forall_mem_cons, true_and]
          exact ih answer

theorem run_ne_notFound (kind name : String) :
    inquiry.run store ≠ .error (.notFound kind name) := by
  intro h
  rcases inquiry.run_cases store with ⟨error, hrun, hfirst⟩ | ⟨_, hrun, -⟩
  · cases h.symm.trans hrun
    obtain ⟨look, -, hlook⟩ := List.exists_of_findSome?_eq_some hfirst
    exact ObjectStore.failure?_ne_notFound kind name hlook
  · cases h.symm.trans hrun

/-! ### What a run depends on -/

theorem run_congr
    (agree : ∀ look ∈ inquiry.looks left, left look.key = right look.key) :
    inquiry.run left = inquiry.run right ∧
      inquiry.looks left = inquiry.looks right := by
  induction inquiry with
  | done result => exact ⟨rfl, rfl⟩
  | ask look next ih =>
      have hanswer := Look.answer_congr (agree look (by simp [looks]))
      simp only [run, looks, ← hanswer]
      cases hleft : look.answer left with
      | error error => exact ⟨rfl, rfl⟩
      | ok answer =>
          have hrest := ih answer fun other hother => by
            refine agree other ?_
            simp only [looks, hleft]
            exact List.mem_cons_of_mem _ hother
          exact ⟨hrest.1, congrArg _ hrest.2⟩

theorem run_losing {look : Look} (hlook : look ∈ inquiry.looks store)
    (message : String) :
    inquiry.run (store.losing look.key message) =
      .error (.unavailable message) := by
  induction inquiry with
  | done result => cases hlook
  | ask first next ih =>
      by_cases hkey : first.key = look.key
      · simp only [run, Look.answer_losing hkey]
      · have hother : look ≠ first := fun same => hkey (same ▸ rfl)
        simp only [looks, List.mem_cons, hother, false_or] at hlook
        simp only [run, Look.answer_losing_of_ne hkey]
        cases hanswer : first.answer store with
        | error error => simp [hanswer] at hlook
        | ok answer =>
            simp only [hanswer] at hlook
            exact ih answer hlook

end Inquiry
end AdmissionGate
