import Mathlib.Data.List.Nodup

/-!
# Service registry

Package `discovery`, `src/unnamed/part_001:13–55` (`serviceInfo`, `disco`, `New`,
`Register`). Of `reflect` the package uses `TypeOf`, `Type.String` and, in
`Porto.Discovery.Find`, `Type.Implements`; they are parameters here. `reflect` documents
that `String` need not be unique among types. The map `d.reg` is the list of its
entries, with distinct keys; a `range` over it visits them in an order left open.
-/

namespace Porto.Discovery

/-- How a Go call ends: it returns, or it panics with a runtime message. -/
inductive Outcome (α : Type)
  | returned (a : α)
  | panicked (msg : String)
  deriving DecidableEq, Repr

/-- `serviceInfo`, `part_001:13–17`. -/
structure ServiceInfo (Ty Svc : Type) where
  serverName : String
  service : Svc
  type : Ty
  deriving DecidableEq, Repr

/-- `disco`, `part_001:26–28`: the entries of the map `reg`, keys distinct. -/
structure Disco (Ty Svc : Type) where
  reg : List (String × ServiceInfo Ty Svc)
  nodup : (reg.map Prod.fst).Nodup

/-- The message of a method call on the nil `reflect.Type` of a nil interface. -/
def nilDereferenceMsg : String := "runtime error: invalid memory address or nil pointer dereference"

section Register

variable {Ty Svc : Type} (typeOf : Svc → Option Ty) (typeString : Ty → String)

namespace Disco

/-- `New`, `part_001:31–35`. -/
def new : Disco Ty Svc := ⟨[], List.nodup_nil⟩

/-- The keys of `d.reg`. -/
def keys (d : Disco Ty Svc) : List String := d.reg.map Prod.fst

/-- The registry key, `part_001:42`: `fmt.Sprintf("%s/%s", server, typ.String())`. -/
def key (server : String) (typ : Ty) : String := server ++ "/" ++ typeString typ

/-- `errors.Errorf("already registered: %s", key)`, `part_001:45`. -/
def alreadyRegisteredMsg (key : String) : String := "already registered: " ++ key

/-- `d.reg[key] = serviceInfo{…}` for a key not in the map, `part_001:48–52`. -/
def insert (d : Disco Ty Svc) (k : String) (info : ServiceInfo Ty Svc) (hk : k ∉ d.keys) :
    Disco Ty Svc :=
  ⟨d.reg ++ [(k, info)], by
    rw [List.map_append, List.nodup_append]
    exact ⟨d.nodup, List.nodup_singleton _, List.disjoint_singleton.mpr hk⟩⟩

/-- `Register`, `part_001:38–55`: the `error` (`none` for nil) and `d` after the call.
`reflect.TypeOf` of a nil service is nil, and `typ.String()` then panics. -/
def register (d : Disco Ty Svc) (server : String) (service : Svc) :
    Outcome (Option String × Disco Ty Svc) :=
  match typeOf service with
  | none => .panicked nilDereferenceMsg
  | some typ =>
    let k := key typeString server typ
    if hk : k ∈ d.keys then .returned (some (alreadyRegisteredMsg k), d)
    else .returned (none, d.insert k ⟨server, service, typ⟩ hk)

/-- A sequence of `Register` calls from `d`: every call's `error` and the registry after
the last, unless a call panics. -/
def registerAll (d : Disco Ty Svc) : List (String × Svc) → Outcome (List (Option String) × Disco Ty Svc)
  | [] => .returned ([], d)
  | (server, service) :: calls =>
    match register typeOf typeString d server service with
    | .panicked msg => .panicked msg
    | .returned (err, d') =>
      match registerAll d' calls with
      | .panicked msg => .panicked msg
      | .returned (errs, d'') => .returned (err :: errs, d'')

/-- `New` has no key. -/
@[simp] theorem keys_new : (new : Disco Ty Svc).keys = [] := rfl

/-- Adding an entry appends its key. -/
@[simp] theorem keys_insert (d : Disco Ty Svc) (k : String) (info : ServiceInfo Ty Svc)
    (hk : k ∉ d.keys) : (d.insert k info hk).keys = d.keys ++ [k] := by
  simp [insert, keys]

/-- Two keys on one server agree exactly when the two types print the same. -/
theorem key_eq_key_iff (server : String) (t u : Ty) :
    key typeString server t = key typeString server u ↔ typeString t = typeString u := by
  simp [key, String.ext_iff, String.data_append]

/-- `Register` on a service of dynamic type `typ`: an error naming the key, with the
registry unchanged, exactly when the key is taken; otherwise the entry is added. -/
theorem register_of_typeOf {d : Disco Ty Svc} {server : String} {service : Svc} {typ : Ty}
    (h : typeOf service = some typ) :
    register typeOf typeString d server service =
      if hk : key typeString server typ ∈ d.keys then
        .returned (some (alreadyRegisteredMsg (key typeString server typ)), d)
      else .returned (none, d.insert _ ⟨server, service, typ⟩ hk) := by
  simp only [register, h]

/-- `Register` on a nil service panics. -/
theorem register_of_typeOf_none {d : Disco Ty Svc} {server : String} {service : Svc}
    (h : typeOf service = none) :
    register typeOf typeString d server service = .panicked nilDereferenceMsg := by
  simp only [register, h]

/-- The key a `Register` call looks up, unless its service is nil. -/
def callKey (c : String × Svc) : Option String := (typeOf c.2).map (key typeString c.1)

/-- One `Register` call on a non-nil service: its error is decided by the key alone,
and the keys afterwards are the old ones and that key. -/
theorem register_spec (d : Disco Ty Svc) (server : String) (service : Svc) {typ : Ty}
    (h : typeOf service = some typ) :
    ∃ d', register typeOf typeString d server service =
        .returned (if key typeString server typ ∈ d.keys then
          some (alreadyRegisteredMsg (key typeString server typ)) else none, d') ∧
      ∀ k, k ∈ d'.keys ↔ k ∈ d.keys ∨ k = key typeString server typ := by
  rw [register_of_typeOf typeOf typeString h]
  split
  · next hk => exact ⟨d, by simp [hk], fun k => ⟨.inl, fun h => h.elim id (· ▸ hk)⟩⟩
  · next hk => exact ⟨d.insert _ ⟨server, service, typ⟩ hk, by simp [hk], fun k => by simp⟩

/-- A run of `Register` calls on non-nil services from `d` never panics; call `i` fails,
naming its key, exactly when that key was in `d` or belongs to an earlier call. -/
theorem registerAll_spec (d : Disco Ty Svc) (calls : List (String × Svc))
    (hcalls : ∀ c ∈ calls, typeOf c.2 ≠ none) :
    ∃ errs d', registerAll typeOf typeString d calls = .returned (errs, d') ∧
      (∀ k, k ∈ d'.keys ↔ k ∈ d.keys ∨ k ∈ calls.filterMap (callKey typeOf typeString)) ∧
      ∀ i (hi : i < calls.length) k, callKey typeOf typeString calls[i] = some k →
        errs[i]? = some (if k ∈ d.keys ∨ k ∈ (calls.take i).filterMap (callKey typeOf typeString)
          then some (alreadyRegisteredMsg k) else none) := by
  induction calls generalizing d with
  | nil => exact ⟨[], d, rfl, by simp, fun i hi => absurd hi (Nat.not_lt_zero i)⟩
  | cons c calls ih =>
    obtain ⟨server, service⟩ := c
    obtain ⟨typ, ht⟩ := Option.ne_none_iff_exists'.mp (hcalls _ (List.mem_cons_self _ _))
    obtain ⟨d₁, hreg, hkeys₁⟩ := register_spec typeOf typeString d server service ht
    obtain ⟨errs, d', hrun, hkeys, herrs⟩ :=
      ih d₁ fun c hc => hcalls c (List.mem_cons_of_mem _ hc)
    have hck : callKey typeOf typeString (server, service) = some (key typeString server typ) := by
      simp [callKey, ht]
    refine ⟨_, d', by simp only [registerAll, hreg, hrun]; rfl, fun k => ?_, fun i hi k hk => ?_⟩
    · simp only [hkeys, hkeys₁, List.filterMap_cons, hck, List.mem_cons, or_assoc]
    · cases i with
      | zero =>
        simp only [List.getElem_cons_zero, hck, Option.some.injEq] at hk
        subst hk
        simp
      | succ i =>
        rw [List.getElem?_cons_succ, herrs i (by simpa using hi) k hk]
        simp only [hkeys₁, List.take_succ_cons, List.filterMap_cons, hck, List.mem_cons, or_assoc]

/-- Over every sequence of `Register` calls from `New` on non-nil services: call `i`
fails exactly when an earlier call had its key `server/T.String()`, a failing call leaves
the registry as it was, and on one server two keys agree exactly when the types print
the same. -/
theorem register_rejects_iff_same_key (calls : List (String × Svc))
    (hcalls : ∀ c ∈ calls, typeOf c.2 ≠ none) :
    (∃ errs d, registerAll typeOf typeString new calls = .returned (errs, d) ∧
      ∀ i (hi : i < calls.length) k, callKey typeOf typeString calls[i] = some k →
        errs[i]? = some (if k ∈ (calls.take i).filterMap (callKey typeOf typeString)
          then some (alreadyRegisteredMsg k) else none)) ∧
    (∀ (d d' : Disco Ty Svc) server service m,
      register typeOf typeString d server service = .returned (some m, d') → d' = d) ∧
    (∀ server (t u : Ty),
      key typeString server t = key typeString server u ↔ typeString t = typeString u) := by
  refine ⟨?_, fun d d' server service m h => ?_, key_eq_key_iff typeString⟩
  · obtain ⟨errs, d, hrun, -, herrs⟩ := registerAll_spec typeOf typeString new calls hcalls
    exact ⟨errs, d, hrun, fun i hi k hk => (herrs i hi k hk).trans
      (congrArg some (if_congr (by simp only [keys_new, List.not_mem_nil, false_or]) rfl rfl))⟩
  · cases ht : typeOf service with
    | none => simp [register_of_typeOf_none typeOf typeString ht] at h
    | some typ =>
      rw [register_of_typeOf typeOf typeString ht] at h
      split at h <;> simp_all

/-! ### What the map stores -/

/-- `d.reg[k]` is set exactly for the keys of `d`. -/
theorem lookup_isSome_iff_mem_keys (d : Disco Ty Svc) (k : String) :
    (d.reg.lookup k).isSome ↔ k ∈ d.keys := by
  simp only [List.lookup_isSome_iff, keys, List.mem_map, beq_iff_eq]
  exact ⟨fun ⟨p, hp, h⟩ => ⟨p, hp, h.symm⟩, fun ⟨p, hp, h⟩ => ⟨p, hp, h.symm⟩⟩

/-- After one `Register` call on a non-nil service every stored entry stays, and the call's
entry is stored under its key when the key was free. -/
theorem lookup_register {d d' : Disco Ty Svc} {server : String} {service : Svc} {typ : Ty}
    {err : Option String} (h : typeOf service = some typ)
    (hr : register typeOf typeString d server service = .returned (err, d')) (k : String) :
    d'.reg.lookup k = (d.reg.lookup k).or
      (if k = key typeString server typ then some ⟨server, service, typ⟩ else none) := by
  rw [register_of_typeOf typeOf typeString h] at hr
  split at hr
  · next hk =>
    cases hr
    by_cases hkk : k = key typeString server typ
    · subst hkk
      obtain ⟨v, hv⟩ := Option.isSome_iff_exists.mp ((lookup_isSome_iff_mem_keys d _).mpr hk)
      rw [hv, Option.or_some]
    · rw [if_neg hkk, Option.or_none]
  · cases hr
    by_cases hkk : k = key typeString server typ
    · simp [insert, List.lookup_append, hkk]
    · simp [insert, List.lookup_append, List.lookup_cons, hkk, beq_eq_false_iff_ne.mpr hkk]

/-- The entry the first of `calls` whose key is `k` would store: its server, service and
type. -/
def firstEntry (calls : List (String × Svc)) (k : String) : Option (ServiceInfo Ty Svc) :=
  (calls.find? fun c => callKey typeOf typeString c = some k).bind fun c =>
    (typeOf c.2).map (ServiceInfo.mk c.1 c.2)

/-- What a run of `Register` calls on non-nil services from `d` leaves in the map: under
each key, the entry `d` had, else the entry (server, service, type) of the first call with
that key, and nothing under a key no call has. A later call with a taken key changes
nothing: the first registration wins. -/
theorem registerAll_lookup (d : Disco Ty Svc) (calls : List (String × Svc))
    (hcalls : ∀ c ∈ calls, typeOf c.2 ≠ none) :
    ∃ errs d', registerAll typeOf typeString d calls = .returned (errs, d') ∧
      ∀ k, d'.reg.lookup k = (d.reg.lookup k).or (firstEntry typeOf typeString calls k) := by
  induction calls generalizing d with
  | nil => exact ⟨[], d, rfl, fun k => by simp [firstEntry, Option.or_none]⟩
  | cons c calls ih =>
    obtain ⟨server, service⟩ := c
    obtain ⟨typ, ht⟩ := Option.ne_none_iff_exists'.mp (hcalls _ (List.mem_cons_self _ _))
    obtain ⟨d₁, hreg, -⟩ := register_spec typeOf typeString d server service ht
    obtain ⟨errs, d', hrun, hlook⟩ := ih d₁ fun c hc => hcalls c (List.mem_cons_of_mem _ hc)
    refine ⟨_, d', by simp only [registerAll, hreg, hrun]; rfl, fun k => ?_⟩
    rw [hlook, lookup_register typeOf typeString ht hreg, Option.or_assoc]
    congr 1
    by_cases hk : k = key typeString server typ
    · simp [firstEntry, hk, callKey, ht]
    · simp [firstEntry, hk, callKey, ht, List.find?_cons, Ne.symm hk]

/-- With distinct keys, an entry is in the map exactly when the map reads its value under
its key. -/
theorem mem_reg_iff_lookup (d : Disco Ty Svc) (e : String × ServiceInfo Ty Svc) :
    e ∈ d.reg ↔ d.reg.lookup e.1 = some e.2 := by
  refine ⟨fun he => ?_, fun he => ?_⟩
  · obtain ⟨l₁, l₂, hl⟩ := List.append_of_mem he
    have hnd := d.nodup
    rw [hl, List.map_append, List.nodup_append] at hnd
    refine List.lookup_eq_some_iff.mpr ⟨l₁, l₂, hl, fun p hp => ?_⟩
    have hne : e.1 ≠ p.1 := fun h => hnd.2.2 (List.mem_map_of_mem Prod.fst hp) (by simp [h])
    simpa using hne
  · obtain ⟨l₁, l₂, hl, -⟩ := List.lookup_eq_some_iff.mp he
    simp [hl]

end Disco

end Register

/-! ### Named types -/

/-- A defined Go type as `reflect` reports it: its package's import path and name, its
own name, and the names of its methods. -/
structure NamedType where
  pkgPath : String
  pkgName : String
  name : String
  methods : List String
  deriving DecidableEq, Repr

/-- `reflect.Type.String` of a defined type: the package's name, not its path. -/
def NamedType.string (t : NamedType) : String := t.pkgName ++ "." ++ t.name

/-- `store.Service` of the package at `billing/store`. -/
def billingStore : NamedType := ⟨"billing/store", "store", "Service", ["Get"]⟩

/-- `store.Service` of the package at `catalog/store`: another type, printed the same. -/
def catalogStore : NamedType := ⟨"catalog/store", "store", "Service", ["Get", "List"]⟩

/-- Two `Register` calls on server `s`: `billingStore`, then `catalogStore`. -/
def storeCalls : List (String × Option NamedType) :=
  [("s", some billingStore), ("s", some catalogStore)]

/-- The two calls on one server: each call's error follows its key, and the two keys agree
exactly when the two types print the same. -/
theorem register_rejects_iff_same_key_store :
    (∀ c ∈ storeCalls, id c.2 ≠ none) ∧
    (∃ errs d, Disco.registerAll id NamedType.string Disco.new storeCalls = .returned (errs, d) ∧
      ∀ i (hi : i < storeCalls.length) k, Disco.callKey id NamedType.string storeCalls[i] = some k →
        errs[i]? = some (if k ∈ (storeCalls.take i).filterMap (Disco.callKey id NamedType.string)
          then some (Disco.alreadyRegisteredMsg k) else none)) ∧
    (Disco.key NamedType.string "s" billingStore = Disco.key NamedType.string "s" catalogStore ↔
      billingStore.string = catalogStore.string) :=
  have h := Disco.register_rejects_iff_same_key id NamedType.string storeCalls (by decide)
  ⟨by decide, h.1, h.2.2 "s" _ _⟩

/-- `Register` of `billingStore` on server `billing`, then of `catalogStore` on `catalog`. -/
def twoServerCalls : List (String × Option NamedType) :=
  [("billing", some billingStore), ("catalog", some catalogStore)]

/-- After the calls on two servers, the map holds under each key the entry of its call. -/
theorem lookup_registerAll_twoServers :
    (∀ c ∈ twoServerCalls, id c.2 ≠ none) ∧
    ∃ errs d', Disco.registerAll id NamedType.string Disco.new twoServerCalls =
        .returned (errs, d') ∧
      ∀ k, d'.reg.lookup k = ((Disco.new : Disco NamedType (Option NamedType)).reg.lookup k).or
        (Disco.firstEntry id NamedType.string twoServerCalls k) :=
  ⟨by decide, Disco.registerAll_lookup id NamedType.string Disco.new _ (by decide)⟩

/-- Two different types that print as `store.Service` collide on one server: the second
`Register` fails as a duplicate. A nil service makes `Register` panic. -/
theorem register_collides_on_type_name :
    billingStore ≠ catalogStore ∧
    (∃ d, Disco.registerAll id NamedType.string (Disco.new : Disco NamedType (Option NamedType))
      storeCalls =
        .returned ([none, some "already registered: s/store.Service"], d)) ∧
    Disco.register id NamedType.string (Disco.new : Disco NamedType (Option NamedType)) "s" none =
      .panicked nilDereferenceMsg :=
  ⟨by decide, ⟨_, rfl⟩, rfl⟩

end Porto.Discovery
