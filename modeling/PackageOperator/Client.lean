import PackageOperator.Cluster

/-! The client the code talks to the cluster through. A client computation runs against the
world: the store, the log of every request sent, the transport's faults and the process
environment. It may end in a Go error, and the world it leaves behind stays, error or not:
what a failed run wrote before its failure is still in the store. -/

namespace PackageOperator.Client
open Api Cluster MetaObject

/-- One request as sent, with the metadata of the object it carries. -/
inductive Request where
  | get (kind : GroupKind) (key : ObjectKey)
  | list (kind : GroupKind) (selector : List (String × String))
  | create (kind : GroupKind) (metadata : ObjectMeta)
  | update (kind : GroupKind) (metadata : ObjectMeta)
  | patch (kind : GroupKind) (metadata : ObjectMeta)
  | patchStatus (kind : GroupKind) (metadata : ObjectMeta)
  | delete (kind : GroupKind) (key : ObjectKey)
deriving DecidableEq, Repr

structure World where
  store : Store
  requests : List Request
  /-- The message of the transport error that fails the `n`-th request, which then never
  reaches the API server: the store does not see it. A response lost after the server applied
  the request is not among these faults. -/
  fault : Nat → Option String
  environment : List (String × String)

/-- No request fails in transport. -/
def World.Reliable (w : World) : Prop := ∀ n, w.fault n = none

/-- A fresh process against the store `s`, over a transport that fails nothing. -/
def World.reliableOn (s : Store) : World := ⟨s, [], fun _ => none, []⟩

theorem World.reliableOn_reliable (s : Store) : (World.reliableOn s).Reliable := fun _ => rfl

def ClientM (α : Type) : Type := World → Except Error α × World

namespace ClientM

instance : Monad ClientM where
  pure a := fun w => (.ok a, w)
  bind x f := fun w => match x w with
    | (.ok a, w') => f a w'
    | (.error e, w') => (.error e, w')

instance : MonadExceptOf Error ClientM where
  throw e := fun w => (.error e, w)
  tryCatch x handler := fun w => match x w with
    | (.error e, w') => handler e w'
    | result => result

variable {α β : Type}

@[simp] theorem pure_apply (a : α) (w : World) : (pure a : ClientM α) w = (.ok a, w) := rfl

@[simp] theorem bind_apply (x : ClientM α) (f : α → ClientM β) (w : World) :
    (x >>= f) w = match x w with
      | (.ok a, w') => f a w'
      | (.error e, w') => (.error e, w') := rfl

@[simp] theorem throw_apply (e : Error) (w : World) : (throw e : ClientM α) w = (.error e, w) :=
  rfl

/-- `v, err := x()`: the error as a value. -/
def attempt (x : ClientM α) : ClientM (Except Error α) := fun w => ((.ok (x w).1), (x w).2)

/-- `if err := x(); err != nil { return fmt.Errorf(message + ": %w", err) }`. -/
def wrap (message : String) (x : ClientM α) : ClientM α := fun w => match x w with
  | (.error e, w') => (.error (e.wrap message), w')
  | result => result

def ofResult (result : Except Error α) : ClientM α := fun w => (result, w)

@[simp] theorem attempt_apply (x : ClientM α) (w : World) :
    attempt x w = (.ok (x w).1, (x w).2) := rfl

@[simp] theorem ofResult_apply (result : Except Error α) (w : World) :
    ofResult result w = (result, w) := rfl

/-- A bind that succeeded went through a success of its first computation. -/
theorem bind_ok {x : ClientM α} {f : α → ClientM β} {w : World} {b : β} (ran : ((x >>= f) w).1 = .ok b) :
    ∃ a w₁, x w = (.ok a, w₁) ∧ (x >>= f) w = f a w₁ := by
  rw [bind_apply] at ran ⊢
  split at ran
  · next a w₁ result => exact ⟨a, w₁, result, rfl⟩
  · cases ran

theorem wrap_ok {message : String} {x : ClientM α} {w : World} {a : α} (ran : (wrap message x w).1 = .ok a) :
    wrap message x w = x w := by
  simp only [wrap] at ran ⊢
  split at ran
  · cases ran
  · rfl

end ClientM

open ClientM

/-- Sends one request: the transport may fail it before it reaches the server, otherwise the
store answers it. The request is logged either way. -/
def send {α : Type} (request : Request) (answer : Store → Except Error (α × Store)) : ClientM α :=
  fun w =>
    let sent := { w with requests := w.requests ++ [request] }
    match w.fault w.requests.length with
    | some message => (.error (.transport message), sent)
    | none => match answer w.store with
      | .ok (a, s) => (.ok a, { sent with store := s })
      | .error e => (.error e, sent)

/-- A request the transport delivers is answered by the store. -/
theorem send_delivered {α : Type} (request : Request) (answer : Store → Except Error (α × Store))
    (w : World) (delivered : w.fault w.requests.length = none) :
    send request answer w = match answer w.store with
      | .ok (a, s) => (.ok a, { w with requests := w.requests ++ [request], store := s })
      | .error e => (.error e, { w with requests := w.requests ++ [request] }) := by
  simp only [send, delivered]

/-- Two delivered sends of one request against the same store are answered alike. -/
theorem send_congr {α : Type} (request : Request) (answer : Store → Except Error (α × Store)) {u u' : World}
    (delivered : u.fault u.requests.length = none) (delivered' : u'.fault u'.requests.length = none)
    (sameStore : u.store = u'.store) :
    (send request answer u).1 = (send request answer u').1 ∧
      (send request answer u).2.store = (send request answer u').2.store := by
  rw [send_delivered _ _ u delivered, send_delivered _ _ u' delivered', sameStore]
  split <;> exact ⟨rfl, rfl⟩

theorem send_reliable {α : Type} (request : Request) (answer : Store → Except Error (α × Store))
    (w : World) (reliable : w.Reliable) :
    send request answer w = match answer w.store with
      | .ok (a, s) => (.ok a, { w with requests := w.requests ++ [request], store := s })
      | .error e => (.error e, { w with requests := w.requests ++ [request] }) :=
  send_delivered request answer w (reliable w.requests.length)

theorem send_faulty {α : Type} (request : Request) (answer : Store → Except Error (α × Store))
    (w : World) (message : String) (fails : w.fault w.requests.length = some message) :
    send request answer w = (.error (.transport message), { w with requests := w.requests ++ [request] }) := by
  simp only [send, fails]

/-- Whatever a request's outcome, the store after it is the one before or the one it wrote. -/
theorem send_store {α : Type} (request : Request) (answer : Store → Except Error (α × Store))
    (w : World) :
    (send request answer w).2.store = w.store ∨
      ∃ a s, answer w.store = .ok (a, s) ∧ (send request answer w).2.store = s := by
  simp only [send]
  split
  · exact .inl rfl
  · split <;> simp_all

@[simp] theorem send_requests {α : Type} (request : Request) (answer : Store → Except Error (α × Store))
    (w : World) : (send request answer w).2.requests = w.requests ++ [request] := by
  simp only [send]
  split
  · rfl
  · split <;> rfl

@[simp] theorem send_fault {α : Type} (request : Request) (answer : Store → Except Error (α × Store))
    (w : World) : (send request answer w).2.fault = w.fault := by
  simp only [send]
  split
  · rfl
  · split <;> rfl

@[simp] theorem send_environment {α : Type} (request : Request)
    (answer : Store → Except Error (α × Store)) (w : World) :
    (send request answer w).2.environment = w.environment := by
  simp only [send]
  split
  · rfl
  · split <;> rfl

variable {α : Type} [MetaObject α] [ClientObject α]

/-- A write to `α`'s table, stamped with the next revision of the store. -/
def write {β : Type} (op : Table α → Nat → Except Error (β × Table α)) (s : Store) :
    Except Error (β × Store) :=
  (op (ClientObject.table s) (s.revision + 1)).map fun (b, t) =>
    (b, { ClientObject.setTable s t with revision := s.revision + 1 })

def get (k : ObjectKey) : ClientM α :=
  send (.get (ClientObject.kind (α := α)) k) fun s =>
    match (ClientObject.table s).find? k with
    | some o => .ok (o, s)
    | none => .error .notFound

def list (selector : List (String × String)) : ClientM (List α) :=
  send (.list (ClientObject.kind (α := α)) selector) fun s => .ok ((ClientObject.table s).list selector, s)

/-- `Create`, which decodes the created object back into its argument. -/
def create (o : α) : ClientM α :=
  send (.create (ClientObject.groupKind o) (metadata o)) (write fun t rv => t.create o rv)

def update (o : α) : ClientM α :=
  send (.update (ClientObject.groupKind o) (metadata o)) (write fun t rv => t.update o rv)

/-- `Delete`, which leaves its argument as it was. -/
def delete (o : α) : ClientM Unit :=
  send (.delete (ClientObject.groupKind o) (key o))
    (write (α := α) fun t rv => (t.delete (key o) rv).map ((), ·))

def patch (merge : α → α → α) (o : α) : ClientM α :=
  send (.patch (ClientObject.groupKind o) (metadata o)) (write fun t rv => t.patch merge o rv)

def patchStatus (o : α) : ClientM α :=
  send (.patchStatus (ClientObject.groupKind o) (metadata o)) (write fun t rv => t.patchStatus o rv)

/-- `os.Getenv`: the empty string when the variable is unset. -/
def getenv (name : String) : ClientM String :=
  fun w => (.ok ((w.environment.lookup name).getD ""), w)

def setenv (name value : String) : ClientM Unit :=
  fun w => (.ok (), { w with environment := mapSet w.environment name value })


theorem get_store (k : ObjectKey) (w : World) : (get (α := α) k w).2.store = w.store := by
  rcases send_store _ _ w with same | ⟨o, s, answered, stored⟩
  · exact same
  · split at answered <;> cases answered
    exact stored

/-- A delivered Get of a key nothing is stored under is answered NotFound. -/
theorem get_missing {k : ObjectKey} {w : World} (delivered : w.fault w.requests.length = none)
    (absent : (ClientObject.table (α := α) w.store).find? k = none) :
    get (α := α) k w = (.error .notFound, { w with requests := w.requests ++ [.get (ClientObject.kind (α := α)) k] }) := by
  simp [get, send_delivered _ _ w delivered, absent]

/-- A Get answered NotFound found nothing under the key: a transport error is never one. -/
theorem get_notFound {k : ObjectKey} {w : World} {e : Error} (failed : (get (α := α) k w).1 = .error e)
    (notFound : e.isNotFound = true) : (ClientObject.table (α := α) w.store).find? k = none := by
  cases found : (ClientObject.table (α := α) w.store).find? k with
  | none => rfl
  | some o =>
    simp only [get, send, found] at failed
    split at failed
    · cases failed
      simp [Error.isNotFound] at notFound
    · cases failed

theorem get_absent {k : ObjectKey} (w : World) (absent : (ClientObject.table (α := α) w.store).find? k = none) :
    (get (α := α) k w).1 = .error .notFound ∨ ∃ message, (get (α := α) k w).1 = .error (.transport message) := by
  cases fault : w.fault w.requests.length with
  | some message => exact .inr ⟨message, by simp [get, send_faulty _ _ w message fault]⟩
  | none => exact .inl (by simp [get, send_delivered _ _ w fault, absent])

theorem update_returns_key {o u : α} {w : World} (updated : (update o w).1 = .ok u) : key u = key o := by
  simp only [update, send] at updated
  split at updated
  · cases updated
  · simp only [write] at updated
    cases result : (ClientObject.table w.store).update o (w.store.revision + 1) with
    | error e => simp [result, Except.map] at updated
    | ok r =>
      simp only [result, Except.map, Except.ok.injEq] at updated
      exact updated ▸ Table.update_key result

/-- A List that succeeded read the table and wrote nothing. -/
theorem list_eq_ok {selector : List (String × String)} {w w' : World} {l : List α}
    (listed : list (α := α) selector w = (.ok l, w')) :
    l = (ClientObject.table w.store).list selector ∧ w'.store = w.store := by
  simp only [list, send] at listed
  split at listed
  · cases listed
  · simp only [Prod.mk.injEq, Except.ok.injEq] at listed
    exact ⟨listed.1.symm, listed.2 ▸ rfl⟩

/-- A delivered List reads the table by the selector and writes nothing. -/
theorem list_delivered {selector : List (String × String)} {w : World} (delivered : w.fault w.requests.length = none) :
    list (α := α) selector w = (.ok ((ClientObject.table (α := α) w.store).list selector),
      { w with requests := w.requests ++ [.list (ClientObject.kind (α := α)) selector] }) := by
  simp [list, send_delivered _ _ w delivered]

/-- A Create fails in transport and writes nothing, or is refused because the key is taken, or
stores an object under the key. -/
theorem create_outcome (o : α) (w : World) :
    (∃ message, (create o w).1 = .error (.transport message) ∧ (create o w).2.store = w.store) ∨
    ((create o w).1 = .error .alreadyExists ∧ (create o w).2.store = w.store ∧
      ((ClientObject.table (α := α) w.store).find? (key o)).isSome) ∨
    ∃ c, ∃ t : Table α, (create o w).1 = .ok c ∧
      (create o w).2.store = { ClientObject.setTable w.store t with revision := w.store.revision + 1 } ∧
      (t.find? (key o)).isSome := by
  cases fault : w.fault w.requests.length with
  | some message => exact .inl ⟨message, by simp [create, send_faulty _ _ w message fault]⟩
  | none =>
    rw [create, send_delivered _ _ w fault]
    rcases Table.create_stored (ClientObject.table w.store) o (w.store.revision + 1) with
      ⟨c, t, created, stored⟩ | ⟨refused, stored⟩
    · exact .inr (.inr ⟨c, t, by simp [write, created, Except.map], by simp [write, created, Except.map],
        stored⟩)
    · exact .inr (.inl ⟨by simp [write, refused, Except.map], by simp [write, refused, Except.map],
        stored⟩)

/-- A delivered Create is answered with success or AlreadyExists, never another error. -/
theorem create_delivered {o : α} {w : World} (delivered : w.fault w.requests.length = none) {e : Error}
    (failed : (create o w).1 = .error e) : e = .alreadyExists := by
  rw [create, send_delivered _ _ w delivered] at failed
  rcases Table.create_stored (ClientObject.table w.store) o (w.store.revision + 1) with
    ⟨c, t, created, -⟩ | ⟨refused, -⟩
  · simp [write, created, Except.map] at failed
  · simpa [write, refused, Except.map, eq_comm] using failed

/-- A Create of an object whose key is taken writes nothing: the store refuses it, or the
transport fails it. -/
theorem create_taken {o : α} {w : World} (taken : ((ClientObject.table (α := α) w.store).find? (key o)).isSome) :
    (create o w).2.store = w.store := by
  cases fault : w.fault w.requests.length with
  | some message => simp [create, send_faulty _ _ w message fault]
  | none => simp [create, send_delivered _ _ w fault, write, Table.create_of_present _ taken, Except.map]

/-! ## What a computation writes -/

/-- Every store that `x` leaves, error or not, is related by `keep` to the one it started
from. -/
def Keeps {β : Type} (keep : Store → Store → Prop) (x : ClientM β) : Prop :=
  ∀ w, keep w.store (x w).2.store

section Keeps

variable {keep : Store → Store → Prop} {β γ : Type}

theorem Keeps.pure (refl : ∀ s, keep s s) (b : β) : Keeps keep (Pure.pure b : ClientM β) :=
  fun w => refl w.store

theorem Keeps.bind (trans : ∀ s₁ s₂ s₃, keep s₁ s₂ → keep s₂ s₃ → keep s₁ s₃) {x : ClientM β}
    {f : β → ClientM γ} (first : Keeps keep x) (rest : ∀ b, Keeps keep (f b)) : Keeps keep (x >>= f) := by
  intro w
  have kept := first w
  rw [bind_apply]
  split
  · next b w' result =>
    rw [result] at kept
    exact trans _ _ _ kept (rest b w')
  · next e w' result =>
    rw [result] at kept
    exact kept

theorem Keeps.wrap {x : ClientM β} (kept : Keeps keep x) (message : String) :
    Keeps keep (ClientM.wrap message x) := by
  intro w
  have kept := kept w
  simp only [ClientM.wrap]
  rcases ran : x w with ⟨_ | _, w'⟩ <;> simp_all

theorem Keeps.attempt {x : ClientM β} (kept : Keeps keep x) : Keeps keep (ClientM.attempt x) := kept

theorem Keeps.throw (refl : ∀ s, keep s s) (e : Error) : Keeps keep (throw e : ClientM β) :=
  fun w => refl w.store

theorem Keeps.ofResult (refl : ∀ s, keep s s) (result : Except Error β) : Keeps keep (ofResult result) :=
  fun w => refl w.store

theorem Keeps.forM (refl : ∀ s, keep s s) (trans : ∀ s₁ s₂ s₃, keep s₁ s₂ → keep s₂ s₃ → keep s₁ s₃)
    {l : List β} {f : β → ClientM PUnit} (each : ∀ b, Keeps keep (f b)) : Keeps keep (l.forM f) := by
  induction l with
  | nil => exact Keeps.pure refl _
  | cons b l ih => exact Keeps.bind trans (each b) fun _ => ih

theorem Keeps.send (refl : ∀ s, keep s s) (request : Request) {answer : Store → Except Error (β × Store)}
    (answered : ∀ s b s', answer s = .ok (b, s') → keep s s') : Keeps keep (send request answer) := by
  intro w
  rcases send_store request answer w with same | ⟨b, s', answers, stored⟩
  · exact same ▸ refl w.store
  · exact stored ▸ answered _ _ _ answers

theorem Keeps.imp {keep' : Store → Store → Prop} {x : ClientM β} (weaker : ∀ s s', keep s s' → keep' s s')
    (kept : Keeps keep x) : Keeps keep' x :=
  fun w => weaker _ _ (kept w)

/-- An accepted write stores the table its operation returned, under a fresh revision. -/
theorem write_ok {op : Table α → Nat → Except Error (β × Table α)} {s s' : Store} {b : β}
    (accepted : Client.write op s = .ok (b, s')) :
    ∃ t, op (ClientObject.table s) (s.revision + 1) = .ok (b, t) ∧
      s' = { ClientObject.setTable s t with revision := s.revision + 1 } := by
  simp only [Client.write] at accepted
  cases computed : op (ClientObject.table s) (s.revision + 1) with
  | error e => simp [computed, Except.map] at accepted
  | ok result =>
    simp only [computed, Except.map, Except.ok.injEq, Prod.mk.injEq] at accepted
    exact ⟨result.2, by rw [← accepted.1], accepted.2.symm⟩

end Keeps

section Writes

variable {keep : Store → Store → Prop} (refl : ∀ s, keep s s)
include refl

theorem Keeps.get (k : ObjectKey) : Keeps keep (get (α := α) k) :=
  Keeps.send refl _ fun s _ s' answered => by
    split at answered <;> cases answered
    exact refl s

theorem Keeps.list (selector : List (String × String)) : Keeps keep (list (α := α) selector) :=
  Keeps.send refl _ fun s _ s' answered => by cases answered; exact refl s

/-- A verb keeps what every write of a table its operation returns keeps. -/
theorem Keeps.write_of {β : Type} (request : Request) {op : Table α → Nat → Except Error (β × Table α)}
    (written : ∀ s b (t : Table α), op (ClientObject.table s) (s.revision + 1) = .ok (b, t) →
      keep s { ClientObject.setTable s t with revision := s.revision + 1 }) :
    Keeps keep (Client.send request (Client.write op)) :=
  Keeps.send refl _ fun _ _ _ answered => by
    obtain ⟨t, computed, rfl⟩ := write_ok answered
    exact written _ _ _ computed

/-- A verb that writes `α`'s table keeps what every write of that table keeps. -/
theorem Keeps.write {β : Type} (request : Request) {op : Table α → Nat → Except Error (β × Table α)}
    (written : ∀ s (t : Table α), keep s { ClientObject.setTable s t with revision := s.revision + 1 }) :
    Keeps keep (Client.send request (Client.write op)) :=
  Keeps.write_of refl request fun s _ t _ => written s t

end Writes

/-- A verb keeps a relation of `α`'s tables when every table its operation returns is related to
the one it was given, for a table that the store's revision is not part of. -/
theorem Keeps.write_table {β : Type} {R : Table α → Table α → Prop} (refl : ∀ t, R t t)
    (stamped : ∀ (s : Store) r, ClientObject.table (α := α) { s with revision := r } = ClientObject.table s)
    (request : Request) {op : Table α → Nat → Except Error (β × Table α)}
    (written : ∀ t rv b t', op t rv = .ok (b, t') → R t t') :
    Keeps (fun s s' => R (ClientObject.table s) (ClientObject.table s')) (Client.send request (Client.write op)) :=
  Keeps.write_of (fun _ => refl _) request fun s _ t computed => by
    simp only [stamped (ClientObject.setTable s t), ClientObject.table_setTable]
    exact written _ _ _ _ computed

/-- `x` either fails, leaving a store related by `keep` to the one it started from, or reaches
a world related to the start and `ready`, from which it goes on as `next`. -/
def HandsOver {β : Type} (keep : Store → Store → Prop) (ready : Store → Prop) (next x : ClientM β) :
    Prop :=
  ∀ w, (∃ e, (x w).1 = .error e ∧ keep w.store (x w).2.store) ∨
    ∃ w', keep w.store w'.store ∧ ready w'.store ∧ x w = next w'

theorem HandsOver.bind {keep : Store → Store → Prop} {ready : Store → Prop} {β γ : Type}
    (trans : ∀ s₁ s₂ s₃, keep s₁ s₂ → keep s₂ s₃ → keep s₁ s₃) {next : ClientM β} {x : ClientM γ}
    {f : γ → ClientM β} (first : Keeps keep x) (rest : ∀ c, HandsOver keep ready next (f c)) :
    HandsOver keep ready next (x >>= f) := by
  intro w
  have kept := first w
  rw [bind_apply]
  split
  · next c w' result =>
    rw [result] at kept
    rcases rest c w' with ⟨e, failed, kept'⟩ | ⟨w'', kept', isReady, handed⟩
    · exact .inl ⟨e, failed, trans _ _ _ kept kept'⟩
    · exact .inr ⟨w'', trans _ _ _ kept kept', isReady, handed⟩
  · next e w' result =>
    rw [result] at kept
    exact .inl ⟨e, rfl, kept⟩

/-! ## Runs that read only the store -/

/-- Two reliable worlds with the same store. -/
def SameStore (u u' : World) : Prop := u.Reliable ∧ u'.Reliable ∧ u.store = u'.store

/-- Two reliable worlds with the same store and the same environment. -/
def Alike (u u' : World) : Prop := SameStore u u' ∧ u.environment = u'.environment

/-- Under `same` every request is delivered against one store, and sending one request keeps it. -/
def SendsAlike (same : World → World → Prop) : Prop :=
  ∀ u u', same u u' → u.fault u.requests.length = none ∧ u'.fault u'.requests.length = none ∧
    u.store = u'.store ∧ ∀ request s, same { u with requests := u.requests ++ [request], store := s }
      { u' with requests := u'.requests ++ [request], store := s }

theorem sameStore_sendsAlike : SendsAlike SameStore :=
  fun _ _ ⟨reliable, reliable', sameStore⟩ =>
    ⟨reliable _, reliable' _, sameStore, fun _ _ => ⟨reliable, reliable', rfl⟩⟩

/-- From worlds related by `same`, `x` returns the same and leaves worlds related by `same`. -/
def Replays {β : Type} (same : World → World → Prop) (x : ClientM β) : Prop :=
  ∀ u u', same u u' → (x u).1 = (x u').1 ∧ same (x u).2 (x u').2

section Replays

variable {same : World → World → Prop} {β γ : Type}

theorem Replays.pure (b : β) : Replays same (Pure.pure b : ClientM β) := fun _ _ related => ⟨rfl, related⟩

theorem Replays.throw (e : Error) : Replays same (throw e : ClientM β) := fun _ _ related => ⟨rfl, related⟩

theorem Replays.ofResult (result : Except Error β) : Replays same (ofResult result) :=
  fun _ _ related => ⟨rfl, related⟩

theorem Replays.attempt {x : ClientM β} (replays : Replays same x) : Replays same (attempt x) :=
  fun u u' related => ⟨by simp [(replays u u' related).1], (replays u u' related).2⟩

theorem Replays.bind {x : ClientM β} {f : β → ClientM γ} (first : Replays same x)
    (rest : ∀ b, Replays same (f b)) : Replays same (x >>= f) := by
  intro u u' related
  obtain ⟨result, related'⟩ := first u u' related
  rw [bind_apply, bind_apply]
  rcases ran : x u with ⟨r, w⟩
  rcases ran' : x u' with ⟨r', w'⟩
  rw [ran, ran'] at result related'
  cases (result : r = r')
  cases r with
  | error e => exact ⟨rfl, related'⟩
  | ok b => exact rest b w w' related'

theorem Replays.wrap {x : ClientM β} (replays : Replays same x) (message : String) :
    Replays same (ClientM.wrap message x) := by
  intro u u' related
  obtain ⟨result, related'⟩ := replays u u' related
  simp only [ClientM.wrap]
  rcases ran : x u with ⟨r, w⟩
  rcases ran' : x u' with ⟨r', w'⟩
  rw [ran, ran'] at result related'
  cases (result : r = r')
  cases r <;> exact ⟨rfl, related'⟩

theorem Replays.forM {l : List β} {f : β → ClientM PUnit} (each : ∀ b, Replays same (f b)) :
    Replays same (l.forM f) := by
  induction l with
  | nil => exact Replays.pure _
  | cons b l ih => exact Replays.bind (each b) fun _ => ih

theorem Replays.send (sends : SendsAlike same) (request : Request) (answer : Store → Except Error (β × Store)) :
    Replays same (Client.send request answer) := by
  intro u u' related
  obtain ⟨delivered, delivered', sameStore, next⟩ := sends u u' related
  rw [send_delivered _ _ u delivered, send_delivered _ _ u' delivered', sameStore]
  split
  · exact ⟨rfl, next _ _⟩
  · exact ⟨rfl, next _ u'.store⟩

end Replays

/-- A run that replays over one store leaves a reliable transport reliable. -/
theorem Replays.reliable {β : Type} {x : ClientM β} (replays : Replays SameStore x) {w : World}
    (reliable : w.Reliable) : (x w).2.Reliable :=
  (replays w w ⟨reliable, reliable, rfl⟩).2.1

theorem Replays.getenv (name : String) : Replays Alike (Client.getenv name) :=
  fun _ _ related => ⟨by simp [Client.getenv, related.2], related⟩

theorem Replays.setenv (name value : String) : Replays Alike (Client.setenv name value) :=
  fun _ _ ⟨⟨reliable, reliable', sameStore⟩, environment⟩ =>
    ⟨rfl, ⟨⟨reliable, reliable', sameStore⟩, by simp [Client.setenv, environment]⟩⟩

end PackageOperator.Client
