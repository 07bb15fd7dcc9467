import HttpCloak.Map

/-!
# The session registry of `LocalProxy`

`local_proxy.go`. `RegisterSession(id, s)` stores `s` under `id` and sets `s`'s session
identifier, the key that isolates its TLS session cache, to `id`; `UnregisterSession(id)`
clears the identifier and deletes the entry; `GetSession(id)` looks the entry up.

Sessions are pointers: the identifier belongs to the session object, and one object can be
stored under several IDs. `Isolated` is the property the identifier is there for: every
session stored under `k` has identifier `k`. `Isolated.register` and `Isolated.unregister`
show which calls keep it: `isolated_run_fresh`, every run whose registrations store sessions
not stored yet; `register_twice_shares_cache_key` is a run that breaks it. `lookup_run` follows
one ID's entry over a run, and `selectSession_run` the session a request naming it runs on.
-/

namespace HttpCloak.Registry

/-- A `*Session`, by its address. -/
abbrev SessionPtr := Nat

/-- `%q` of an ID: the ID in double quotes, with `"` and `\` escaped as Go escapes them. -/
def quote (id : String) : String :=
  "\"" ++ String.join (id.toList.map fun ch =>
    if ch = '"' then "\\\"" else if ch = '\\' then "\\\\" else ch.toString) ++ "\""

/-- The session objects' identifiers and the proxy's `sessionRegistry`. -/
structure State where
  identifier : SessionPtr → String
  sessionRegistry : GoMap String SessionPtr

/-- `p.sessionRegistry[id]`. -/
def State.lookup (st : State) (id : String) : Option SessionPtr :=
  GoMap.lookup st.sessionRegistry id

/-- `session.SetSessionIdentifier(id)`. -/
def State.setIdentifier (st : State) (s : SessionPtr) (id : String) : State :=
  { st with identifier := fun t => if t = s then id else st.identifier t }

/-- `RegisterSession(sessionID, session)`. -/
def registerSession (st : State) (sessionID : String) (session : SessionPtr) :
    Option String × State :=
  match st.lookup sessionID with
  | some _ => (some ("session with ID " ++ quote sessionID ++ " already exists"), st)
  | none =>
    let st := st.setIdentifier session sessionID
    (none, { st with sessionRegistry := GoMap.set st.sessionRegistry sessionID session })

/-- `UnregisterSession(sessionID)`. -/
def unregisterSession (st : State) (sessionID : String) : Option SessionPtr × State :=
  match st.lookup sessionID with
  | none => (none, st)
  | some session =>
    let st := st.setIdentifier session ""
    (some session, { st with sessionRegistry := GoMap.delete st.sessionRegistry sessionID })

/-- `GetSession(sessionID)`. -/
def getSession (st : State) (sessionID : String) : Option SessionPtr := st.lookup sessionID

/-- A call on the registry. -/
inductive Call where
  | register (sessionID : String) (session : SessionPtr)
  | unregister (sessionID : String)
  | get (sessionID : String)
  deriving DecidableEq, Repr

/-- The state after a call. -/
def step (st : State) : Call → State
  | .register id s => (registerSession st id s).2
  | .unregister id => (unregisterSession st id).2
  | .get _ => st

/-- Calls one after another. -/
def run (st : State) (calls : List Call) : State := calls.foldl step st

/-- Every session stored under `k` has the identifier `k`. -/
def Isolated (st : State) : Prop :=
  ∀ k s, st.lookup k = some s → st.identifier s = k

/-- Registering a session that is not in the registry keeps every entry isolated. -/
theorem Isolated.register {st : State} (h : Isolated st) (id : String) (s : SessionPtr)
    (hfresh : ∀ k, st.lookup k ≠ some s) : Isolated (registerSession st id s).2 := by
  unfold registerSession
  split
  · exact h
  · intro k t hk
    simp only [State.setIdentifier, State.lookup, GoMap.lookup_set] at hk ⊢
    split at hk
    · cases hk; simp [*]
    · have ht : t ≠ s := fun hts => hfresh k (hts ▸ hk)
      simp [ht, h k t hk]

/-- Unregistering keeps every remaining entry isolated. -/
theorem Isolated.unregister {st : State} (h : Isolated st) (id : String) :
    Isolated (unregisterSession st id).2 := by
  unfold unregisterSession
  split
  · exact h
  · rename_i s hs
    intro k t hk
    simp only [State.setIdentifier, State.lookup, GoMap.lookup_delete] at hk ⊢
    split at hk
    · cases hk
    · rename_i hkid
      have ht : t ≠ s := fun hts => hkid ((h id s hs).symm.trans (hts ▸ h k t hk))
      simp [ht, h k t hk]

/-- Every call except registering a session that is already in the registry keeps every entry
isolated. -/
theorem Isolated.step {st : State} (h : Isolated st) (c : Call)
    (hc : ∀ id s, c = .register id s → ∀ k, st.lookup k ≠ some s) :
    Isolated (Registry.step st c) := by
  cases c with
  | register id s => exact h.register id s (hc id s rfl)
  | unregister id => exact h.unregister id
  | get _ => exact h

/-- Each register call of the run stores a session that is not in the registry at that point. -/
def FreshRegisters : State → List Call → Prop
  | _, [] => True
  | st, c :: cs =>
    (∀ id s, c = .register id s → ∀ k, st.lookup k ≠ some s) ∧ FreshRegisters (step st c) cs

/-- Runs that never register a stored session again keep every entry isolated. -/
theorem Isolated.run {st : State} (h : Isolated st) :
    ∀ calls, FreshRegisters st calls → Isolated (Registry.run st calls)
  | [], _ => h
  | c :: cs, ⟨hc, hcs⟩ => (h.step c hc).run cs hcs

theorem isolated_empty (identifier : SessionPtr → String) : Isolated ⟨identifier, []⟩ :=
  fun _ _ h => by cases h

/-- **Fresh registrations keep every ID isolated.** From an empty registry, over every run in
which each `RegisterSession` stores a session that is not stored under any ID at that point,
every session stored under an ID `k` has the identifier `k`. -/
theorem isolated_run_fresh (identifier : SessionPtr → String) (calls : List Call)
    (hfresh : FreshRegisters ⟨identifier, []⟩ calls) : Isolated (run ⟨identifier, []⟩ calls) :=
  (isolated_empty identifier).run calls hfresh

/-- A session registered, unregistered, and registered again under another ID. -/
theorem isolated_run_fresh_moved :
    FreshRegisters ⟨fun _ => "", []⟩ [.register "a" 0, .register "b" 1, .unregister "a",
        .register "c" 0] ∧
      Isolated (run ⟨fun _ => "", []⟩ [.register "a" 0, .register "b" 1, .unregister "a",
        .register "c" 0]) := by
  have h : FreshRegisters ⟨fun _ => "", []⟩ [.register "a" 0, .register "b" 1, .unregister "a",
      .register "c" 0] := by
    simp [FreshRegisters, step, registerSession, unregisterSession, State.lookup,
      State.setIdentifier, GoMap.lookup_cons]
    intro k hk
    split_ifs <;> simp_all
  exact ⟨h, isolated_run_fresh _ _ h⟩

/-- Registering a session twice under two IDs. -/
def registerTwice : List Call := [.register "a" 0, .register "b" 0]

/-- **One session under two IDs.** From an empty registry, `RegisterSession("a", s)` then
`RegisterSession("b", s)` leave `s` under both IDs with the identifier `"b"`: requests routed
by `X-HTTPCloak-Session: a` use the cache key `"b"`, which the two IDs share. -/
theorem register_twice_shares_cache_key :
    (run ⟨fun _ => "", []⟩ registerTwice).lookup "a" = some 0 ∧
      (run ⟨fun _ => "", []⟩ registerTwice).lookup "b" = some 0 ∧
      (run ⟨fun _ => "", []⟩ registerTwice).identifier 0 = "b" ∧
      ¬ Isolated (run ⟨fun _ => "", []⟩ registerTwice) := by
  refine ⟨rfl, rfl, rfl, fun h => ?_⟩
  have := h "a" 0 rfl
  simp [run, registerTwice, step, registerSession, State.setIdentifier, State.lookup] at this

/-! ## One ID's entry over a run -/

/-- What one ID's entry becomes after a call: `RegisterSession` fills it only when it is
empty, `UnregisterSession` empties it, and calls on other IDs leave it. -/
def entryStep (id : String) (entry : Option SessionPtr) : Call → Option SessionPtr
  | .register id' s => if id' = id ∧ entry = none then some s else entry
  | .unregister id' => if id' = id then none else entry
  | .get _ => entry

theorem lookup_step (st : State) (id : String) (c : Call) :
    (step st c).lookup id = entryStep id (st.lookup id) c := by
  cases c with
  | register id' s =>
    simp only [step, registerSession, entryStep]
    cases h : st.lookup id' with
    | some t =>
      have : ¬ (id' = id ∧ st.lookup id = none) := fun ⟨he, hn⟩ => by simp [he ▸ h] at hn
      simp [this]
    | none =>
      by_cases he : id' = id
      · subst he; simp only [State.lookup] at h ⊢; simp [State.setIdentifier, h]
      · simp [State.lookup, State.setIdentifier, he]
  | unregister id' =>
    simp only [step, unregisterSession, entryStep]
    cases h : st.lookup id' with
    | none => by_cases he : id' = id <;> simp_all
    | some t => simp [State.lookup, State.setIdentifier]
  | get _ => rfl

/-- **Each ID's entry is its own.** Over every run of `RegisterSession`, `UnregisterSession`
and `GetSession` calls, the session stored under an ID follows the calls that name it and no
other: a registration fills an empty entry and never replaces a stored session, and an
unregistration empties it. -/
theorem lookup_run (st : State) (id : String) :
    ∀ calls : List Call, (run st calls).lookup id = calls.foldl (entryStep id) (st.lookup id)
  | [] => rfl
  | c :: calls => by
    rw [run, List.foldl_cons, ← run, lookup_run _ id calls, lookup_step, List.foldl_cons]

/-- The session `handleHTTPWithSession` sends a request through, from the ID its
`X-HTTPCloak-Session` header names (`""` without one): the proxy's own `session`, or the
session registered under the ID; an ID with none is refused with this message. -/
def selectSession (st : State) (session : SessionPtr) (sessionID : String) :
    Except String SessionPtr :=
  if sessionID ≠ "" then
    match getSession st sessionID with
    | some registeredSession => .ok registeredSession
    | none => .error ("Session not found: " ++ sessionID)
  else .ok session

/-- **The session a request runs on.** After any run of registry calls from an empty registry,
a request that names an ID runs on the session that the calls naming that ID left under it,
and is refused when they left none: it never falls back to the proxy's own session. -/
theorem selectSession_run (identifier : SessionPtr → String) (session : SessionPtr)
    (calls : List Call) (id : String) (hid : id ≠ "") :
    selectSession (run ⟨identifier, []⟩ calls) session id =
      match calls.foldl (entryStep id) none with
      | some s => .ok s
      | none => .error ("Session not found: " ++ id) := by
  rw [selectSession, if_pos hid, getSession, lookup_run]
  rfl

/-- Register, unregister and register again under one ID: the request runs on the session
registered last. -/
theorem selectSession_run_reregistered :
    ("a" ≠ "") ∧
      selectSession (run ⟨fun _ => "", []⟩ [.register "a" 1, .unregister "a", .register "a" 2]) 0 "a" =
        match [Call.register "a" 1, .unregister "a", .register "a" 2].foldl (entryStep "a") none with
        | some s => .ok s
        | none => .error ("Session not found: " ++ "a") :=
  ⟨by decide, selectSession_run _ 0 _ "a" (by decide)⟩

end HttpCloak.Registry
