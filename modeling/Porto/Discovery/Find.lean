import Porto.Discovery.Registry

/-!
# Looking services up by interface

Package `discovery`, `src/unnamed/part_001:57–103` (`Find`, `ForEach`). Both range over
the map `d.reg`, whose order Go leaves open and varies between runs, so the order is an
argument: any listing of the entries, that is any permutation of `d.reg`. The argument
`v` is given as `reflect` classifies it, with the texts the messages print.
-/

namespace Porto.Discovery

/-- The argument `v` of `Find` and `ForEach` as `reflect.ValueOf(v)` shows it: not a
pointer, a nil pointer, a pointer to a non-interface (`typeName` is `TypeOf(v)`), or a
pointer to a variable of interface type `iface` (`shown` is `rv.Elem().String()`). -/
inductive Target (Iface : Type)
  | notPointer (shown : String)
  | nilPointer (shown : String)
  | notInterface (typeName : String)
  | interface (iface : Iface) (shown : String)
  deriving DecidableEq, Repr

/-- `part_001:61,85`: `v` is not a non-nil pointer. -/
def pointerRequiredMsg (shown : String) : String :=
  "a pointer to interface is required, invalid type: " ++ shown

/-- `part_001:68,90`: `*v` is not of interface type. -/
def nonInterfaceMsg (typeName : String) : String := "non interface type: " ++ typeName

/-- `part_001:78`: no registered type implements the interface. -/
def notImplementedMsg (shown : String) : String := "not implemented: " ++ shown

/-- `errors.WithMessagef(err, "failed to execute callback for %s", …)`, `part_001:98`. -/
def callbackMsg (typeName err : String) : String :=
  "failed to execute callback for " ++ typeName ++ ": " ++ err

/-! ### Named types and interfaces -/

/-- `reflect.Type.Implements` of a defined type and an interface given by its method
names: the type has every method the interface names. -/
def NamedType.implements (t : NamedType) (methods : List String) : Bool :=
  methods.all (· ∈ t.methods)

/-- The registry after `Register("billing", billing)` and `Register("catalog", catalog)`
of the two `store.Service` types: their keys differ by server. -/
def twoStores : Disco NamedType (Option NamedType) :=
  ⟨[("billing/store.Service", ⟨"billing", some billingStore, billingStore⟩),
    ("catalog/store.Service", ⟨"catalog", some catalogStore, catalogStore⟩)], by decide⟩

section Lookup

variable {Ty Svc Iface : Type} (implements : Ty → Iface → Bool) (typeString : Ty → String)

/-- `Find`, `part_001:58–79`, ranging over the entries in `order`: the first entry whose
type implements the interface has its service stored into `*v`. -/
def find (order : List (String × ServiceInfo Ty Svc)) : Target Iface → Except String Svc
  | .notPointer shown | .nilPointer shown => .error (pointerRequiredMsg shown)
  | .notInterface typeName => .error (nonInterfaceMsg typeName)
  | .interface iface shown =>
    match order.find? (fun e => implements e.2.type iface) with
    | some e => .ok e.2.service
    | none => .error (notImplementedMsg shown)

/-- The loop of `ForEach`, `part_001:93–101`: for each implementing entry, store its
service into `*v` and call `f` with its key; the first callback error ends the loop.
Returns the calls made, as key and stored service, and the error returned. -/
def forEachLoop (iface : Iface) (f : String → Option String) :
    List (String × ServiceInfo Ty Svc) → List (String × Svc) × Option String
  | [] => ([], none)
  | (k, reg) :: rest =>
    if implements reg.type iface then
      match f k with
      | some err => ([(k, reg.service)], some (callbackMsg (typeString reg.type) err))
      | none =>
        let r := forEachLoop iface f rest
        ((k, reg.service) :: r.1, r.2)
    else forEachLoop iface f rest

/-- `ForEach`, `part_001:82–103`, ranging over the entries in `order`. -/
def forEach (order : List (String × ServiceInfo Ty Svc)) (v : Target Iface)
    (f : String → Option String) : List (String × Svc) × Option String :=
  match v with
  | .notPointer shown | .nilPointer shown => ([], some (pointerRequiredMsg shown))
  | .notInterface typeName => ([], some (nonInterfaceMsg typeName))
  | .interface iface _ => forEachLoop implements typeString iface f order

private theorem find?_eq_head?_filter {α : Type} (p : α → Bool) (l : List α) :
    l.find? p = (l.filter p).head? := by
  induction l with
  | nil => rfl
  | cons a l ih =>
    cases h : p a
    · simpa only [List.find?_cons, List.filter_cons, h, Bool.false_eq_true, ite_false] using ih
    · simp only [List.find?_cons, List.filter_cons, h, ite_true, List.head?_cons]

/-- When at most one entry of `l` passes `p`, every listing of `l` finds the same one. -/
private theorem find?_perm_of_unique {α : Type} {p : α → Bool} {l o₁ o₂ : List α}
    (hu : (l.filter p).length ≤ 1) (h₁ : o₁.Perm l) (h₂ : o₂.Perm l) :
    o₁.find? p = o₂.find? p := by
  have key : ∀ {o : List α}, o.Perm l → o.filter p = l.filter p := fun h => by
    match hl : l.filter p, h.filter p with
    | [], hp => exact List.perm_nil.mp hp
    | [a], hp => exact List.perm_singleton.mp hp
    | _ :: _ :: _, _ => simp [hl] at hu
  rw [find?_eq_head?_filter, find?_eq_head?_filter, key h₁, key h₂]

/-- The first call `ForEach` makes is for the entry `Find` takes. -/
theorem forEachLoop_head? (iface : Iface) (f : String → Option String)
    (order : List (String × ServiceInfo Ty Svc)) :
    (forEachLoop implements typeString iface f order).1.head? =
      (order.find? fun e => implements e.2.type iface).map fun e => (e.1, e.2.service) := by
  induction order with
  | nil => rfl
  | cons e rest ih =>
    obtain ⟨k, reg⟩ := e
    by_cases h : implements reg.type iface
    · cases hf : f k <;> simp [forEachLoop, h, hf]
    · simp [forEachLoop, h, ih]

/-- With a callback that never fails, `ForEach` calls it once for each entry whose type
implements the interface, in iteration order, with that entry's service stored, and
returns nil. -/
theorem forEach_of_callback_ok (order : List (String × ServiceInfo Ty Svc)) (iface : Iface)
    (shown : String) {f : String → Option String} (hf : ∀ k, f k = none) :
    forEach implements typeString order (.interface iface shown) f =
      ((order.filter fun e => implements e.2.type iface).map fun e => (e.1, e.2.service),
        none) := by
  induction order with
  | nil => rfl
  | cons e rest ih =>
    obtain ⟨k, reg⟩ := e
    by_cases h : implements reg.type iface
    · simp only [forEach, forEachLoop, h, hf, if_true] at ih ⊢
      rw [ih]
      simp [h]
    · simpa [forEach, forEachLoop, h] using ih

/-- With a callback that never fails, `ForEach` over the two stores on `List` calls it for
the catalog store only. -/
theorem forEach_of_callback_ok_twoStores :
    (∀ k, (fun _ : String => (none : Option String)) k = none) ∧
      (forEach NamedType.implements NamedType.string twoStores.reg
        (.interface ["List"] "<store.Lister Value>") fun _ => none).1 =
          [("catalog/store.Service", some catalogStore)] :=
  ⟨fun _ => rfl, by
    rw [forEach_of_callback_ok NamedType.implements NamedType.string _ _ _ fun _ => rfl]; rfl⟩

/-- Legible model of `ForEach` on an interface, `part_001:93–102`, said over the implementing
entries at once: `f` is called on them in order up to the first call that fails, that one
included, and the error is the first failure, wrapped with its entry's type name. -/
def forEachModel (iface : Iface) (f : String → Option String)
    (order : List (String × ServiceInfo Ty Svc)) : List (String × Svc) × Option String :=
  let impl := order.filter fun e => implements e.2.type iface
  let ok := fun e : String × ServiceInfo Ty Svc => (f e.1).isNone
  ((impl.takeWhile ok ++ (impl.dropWhile ok).take 1).map fun e => (e.1, e.2.service),
    impl.findSome? fun e => (f e.1).map (callbackMsg (typeString e.2.type)))

/-- Over any listing of the registry and any callback, `ForEach` on an interface does what
its legible model says. -/
theorem forEach_eq_model (order : List (String × ServiceInfo Ty Svc)) (iface : Iface)
    (shown : String) (f : String → Option String) :
    forEach implements typeString order (.interface iface shown) f =
      forEachModel implements typeString iface f order := by
  induction order with
  | nil => rfl
  | cons e rest ih =>
    obtain ⟨k, reg⟩ := e
    simp only [forEach, forEachModel] at ih ⊢
    by_cases h : implements reg.type iface
    · cases hf : f k <;> simp [forEachLoop, h, hf, ih]
    · simpa [forEachLoop, h] using ih

/-- A callback failing on the second store: both calls are made, and the error names the
type of the entry whose callback failed. -/
example :
    forEach NamedType.implements NamedType.string twoStores.reg
      (.interface ["Get"] "<store.Getter Value>")
      (fun k => if k = "catalog/store.Service" then some "boom" else none) =
        ([("billing/store.Service", some billingStore), ("catalog/store.Service", some catalogStore)],
          some "failed to execute callback for store.Service: boom") := by
  decide

section Interface

variable {iface : Iface} {shown : String} {order : List (String × ServiceInfo Ty Svc)}

/-- `Find` on an interface stores the service of the first implementing entry. -/
theorem find_interface_ok_iff {svc : Svc} :
    find implements order (.interface iface shown) = .ok svc ↔
      ∃ e, (order.find? fun e => implements e.2.type iface) = some e ∧ e.2.service = svc := by
  cases h : order.find? fun e => implements e.2.type iface <;> simp [find, h]

/-- `Find` on an interface fails only when no entry implements it, naming the interface. -/
theorem find_interface_error_iff {m : String} :
    find implements order (.interface iface shown) = .error m ↔
      (order.find? fun e => implements e.2.type iface) = none ∧ m = notImplementedMsg shown := by
  cases h : order.find? fun e => implements e.2.type iface <;> simp [find, h, eq_comm]

end Interface

/-- Over any registry and any two orders of its entries: `Find` succeeds exactly when
`ForEach` calls back at least once, and stores the service of that first call; whether it
succeeds, and its error, do not depend on the order; nor does the stored service when at
most one entry implements the interface. -/
theorem find_agrees_with_forEach (d : Disco Ty Svc) (v : Target Iface)
    (f : String → Option String) (o₁ o₂ : List (String × ServiceInfo Ty Svc))
    (h₁ : o₁.Perm d.reg) (h₂ : o₂.Perm d.reg) :
    ((∃ svc, find implements o₁ v = .ok svc) ↔ (forEach implements typeString o₁ v f).1 ≠ []) ∧
    (∀ svc, find implements o₁ v = .ok svc →
      (forEach implements typeString o₁ v f).1.head?.map Prod.snd = some svc) ∧
    ((∃ svc, find implements o₁ v = .ok svc) ↔ ∃ svc, find implements o₂ v = .ok svc) ∧
    (∀ m, find implements o₁ v = .error m ↔ find implements o₂ v = .error m) ∧
    (∀ iface shown, v = .interface iface shown →
      (d.reg.filter fun e => implements e.2.type iface).length ≤ 1 →
        find implements o₁ v = find implements o₂ v) := by
  cases v with
  | interface iface shown =>
    have hsome : ∀ o : List (String × ServiceInfo Ty Svc),
        (∃ svc e, (o.find? fun e => implements e.2.type iface) = some e ∧ e.2.service = svc) ↔
          (o.find? fun e => implements e.2.type iface) ≠ none := fun o =>
      ⟨fun ⟨_, e, he, _⟩ => by simp [he],
        fun h => let ⟨e, he⟩ := Option.ne_none_iff_exists'.mp h; ⟨_, e, he, rfl⟩⟩
    have hnone : (o₁.find? fun e => implements e.2.type iface) = none ↔
        (o₂.find? fun e => implements e.2.type iface) = none := by
      simp only [List.find?_eq_none, (h₁.trans h₂.symm).mem_iff]
    have hhead := forEachLoop_head? implements typeString iface f o₁
    simp only [forEach, find_interface_ok_iff, find_interface_error_iff, hsome]
    refine ⟨?_, ?_, by rw [Ne, Ne, hnone], fun m => by rw [hnone], fun _ _ hv hu => ?_⟩
    · rw [Ne, Ne, ← List.head?_eq_none_iff, hhead, Option.map_eq_none']
    · rintro _ ⟨e, he, rfl⟩
      simp [hhead, he]
    · cases hv
      simp only [find, find?_perm_of_unique hu h₁ h₂]
  | _ => simp [find, forEach]

/-- Over the two stores and their reverse listing, `Find` on `Get` succeeds in both. -/
theorem find_agrees_with_forEach_twoStores :
    twoStores.reg.reverse.Perm twoStores.reg ∧
      ((∃ svc, find NamedType.implements twoStores.reg (.interface ["Get"] "<store.Getter Value>")
          = .ok svc) ↔
        ∃ svc, find NamedType.implements twoStores.reg.reverse
          (.interface ["Get"] "<store.Getter Value>") = .ok svc) :=
  ⟨List.reverse_perm _, (find_agrees_with_forEach NamedType.implements NamedType.string twoStores
    (.interface ["Get"] "<store.Getter Value>") (fun _ => none) _ _ (.refl _)
    (List.reverse_perm _)).2.2.1⟩

/-- Both stores implement an interface with a `Get` method, so the service `Find` stores
depends on the order of the range over `d.reg`. So it does when one type is registered on
two servers, with a service per server: two entries of one type. -/
theorem find_depends_on_order :
    Disco.registerAll id NamedType.string Disco.new twoServerCalls =
      .returned ([none, none], twoStores) ∧
    twoStores.reg.reverse.Perm twoStores.reg ∧
    find NamedType.implements twoStores.reg (.interface ["Get"] "<store.Getter Value>") =
      .ok (some billingStore) ∧
    find NamedType.implements twoStores.reg.reverse (.interface ["Get"] "<store.Getter Value>") =
      .ok (some catalogStore) ∧
    ∃ d : Disco NamedType (NamedType × Nat),
      Disco.registerAll (fun s => some s.1) NamedType.string Disco.new
        [("a", (billingStore, 1)), ("b", (billingStore, 2))] = .returned ([none, none], d) ∧
      d.reg.map (fun e => e.2.type) = [billingStore, billingStore] ∧
      d.reg.reverse.Perm d.reg ∧
      find NamedType.implements d.reg (.interface ["Get"] "<store.Getter Value>") =
        .ok (billingStore, 1) ∧
      find NamedType.implements d.reg.reverse (.interface ["Get"] "<store.Getter Value>") =
        .ok (billingStore, 2) :=
  ⟨rfl, List.reverse_perm _, rfl, rfl, _, rfl, rfl, List.reverse_perm _, rfl, rfl⟩

/-! ### `Find` after `Register` -/

/-- `Find` on an interface stores the service of an entry of the listing whose type
implements it, and succeeds exactly when such an entry exists. -/
theorem find_interface_spec (order : List (String × ServiceInfo Ty Svc)) (iface : Iface)
    (shown : String) :
    (∀ svc, find implements order (.interface iface shown) = .ok svc →
      ∃ e ∈ order, implements e.2.type iface = true ∧ e.2.service = svc) ∧
    ((∃ svc, find implements order (.interface iface shown) = .ok svc) ↔
      ∃ e ∈ order, implements e.2.type iface = true) := by
  refine ⟨fun svc h => ?_, fun ⟨svc, h⟩ => ?_, fun ⟨e, he, hi⟩ => ?_⟩
  · obtain ⟨e, hf, rfl⟩ := (find_interface_ok_iff implements).mp h
    have hi := List.find?_some hf
    exact ⟨e, List.mem_of_find?_eq_some hf, hi, rfl⟩
  · obtain ⟨e, hf, -⟩ := (find_interface_ok_iff implements).mp h
    have hi := List.find?_some hf
    exact ⟨e, List.mem_of_find?_eq_some hf, hi⟩
  · cases hf : order.find? fun e => implements e.2.type iface with
    | none => exact absurd hi (by simpa using List.find?_eq_none.mp hf e he)
    | some e' => exact ⟨e'.2.service, (find_interface_ok_iff implements).mpr ⟨e', hf, rfl⟩⟩

/-- The entries of a registry that holds, under each key, what the first of `calls` with
that key stores: one per call that is the first with its key. -/
theorem mem_of_firstEntry {typeOf : Svc → Option Ty} {calls : List (String × Svc)}
    {d : Disco Ty Svc}
    (hlook : ∀ k, d.reg.lookup k = (Disco.new.reg.lookup k).or
      (Disco.firstEntry typeOf typeString calls k)) (e : String × ServiceInfo Ty Svc) :
    e ∈ d.reg ↔ ∃ c ∈ calls, calls.find? (fun c' => Disco.callKey typeOf typeString c' =
        Disco.callKey typeOf typeString c) = some c ∧
      ∃ t, typeOf c.2 = some t ∧ e = (Disco.key typeString c.1 t, ⟨c.1, c.2, t⟩) := by
  rw [Disco.mem_reg_iff_lookup, hlook]
  simp only [Disco.new, List.lookup_nil, Option.none_or, Disco.firstEntry, Option.bind_eq_some,
    Option.map_eq_some']
  constructor
  · rintro ⟨c, hf, t, ht, hinfo⟩
    have hk : Disco.callKey typeOf typeString c = some e.1 := by simpa using List.find?_some hf
    have he1 : e.1 = Disco.key typeString c.1 t := by simpa [Disco.callKey, ht] using hk.symm
    exact ⟨c, List.mem_of_find?_eq_some hf, by simpa only [hk] using hf, t, ht,
      Prod.ext he1 hinfo.symm⟩
  · rintro ⟨c, -, hf, t, ht, rfl⟩
    have hk : Disco.callKey typeOf typeString c = some (Disco.key typeString c.1 t) := by
      simp [Disco.callKey, ht]
    exact ⟨c, by simpa only [hk] using hf, t, ht, rfl⟩

/-- After any run of `Register` calls on non-nil services from `New`, over any iteration
order of the map: what `Find` stores for an interface is the service of a call that
registered (the first call with its key) whose type implements the interface, and `Find`
succeeds exactly when such a call exists. A service refused as a duplicate is never found. -/
theorem find_after_registerAll (typeOf : Svc → Option Ty) (calls : List (String × Svc))
    (hcalls : ∀ c ∈ calls, typeOf c.2 ≠ none) (iface : Iface) (shown : String) :
    ∃ errs d, Disco.registerAll typeOf typeString Disco.new calls = .returned (errs, d) ∧
      ∀ o : List (String × ServiceInfo Ty Svc), o.Perm d.reg →
        (∀ svc, find implements o (.interface iface shown) = .ok svc →
          ∃ c ∈ calls, calls.find? (fun c' => Disco.callKey typeOf typeString c' =
              Disco.callKey typeOf typeString c) = some c ∧
            c.2 = svc ∧ ∃ t, typeOf c.2 = some t ∧ implements t iface = true) ∧
        ((∃ svc, find implements o (.interface iface shown) = .ok svc) ↔
          ∃ c ∈ calls, calls.find? (fun c' => Disco.callKey typeOf typeString c' =
              Disco.callKey typeOf typeString c) = some c ∧
            ∃ t, typeOf c.2 = some t ∧ implements t iface = true) := by
  obtain ⟨errs, d, hrun, hlook⟩ :=
    Disco.registerAll_lookup typeOf typeString Disco.new calls hcalls
  have hmem := mem_of_firstEntry typeString hlook
  refine ⟨errs, d, hrun, fun o ho => ⟨fun svc h => ?_, ?_⟩⟩
  · obtain ⟨e, he, hi, rfl⟩ := (find_interface_spec implements o iface shown).1 svc h
    obtain ⟨c, hc, hf, t, ht, rfl⟩ := (hmem e).mp (ho.mem_iff.mp he)
    exact ⟨c, hc, hf, rfl, t, ht, hi⟩
  · rw [(find_interface_spec implements o iface shown).2]
    constructor
    · rintro ⟨e, he, hi⟩
      obtain ⟨c, hc, hf, t, ht, rfl⟩ := (hmem e).mp (ho.mem_iff.mp he)
      exact ⟨c, hc, hf, t, ht, hi⟩
    · rintro ⟨c, hc, hf, t, ht, hi⟩
      exact ⟨_, ho.mem_iff.mpr ((hmem _).mpr ⟨c, hc, hf, t, ht, rfl⟩), hi⟩

/-- After the calls on two servers, `Find` on `List` stores the catalog store's service. -/
theorem find_after_registerAll_twoStores :
    (∀ c ∈ twoServerCalls,
      id c.2 ≠ none) ∧
    ∃ errs d, Disco.registerAll id NamedType.string Disco.new
        twoServerCalls = .returned (errs, d) ∧
      ∀ o : List (String × ServiceInfo NamedType (Option NamedType)), o.Perm d.reg →
        (∀ svc, find NamedType.implements o (.interface ["List"] "<store.Lister Value>") =
            .ok svc →
          ∃ c ∈ twoServerCalls,
            twoServerCalls.find?
              (fun c' => Disco.callKey id NamedType.string c' =
                Disco.callKey id NamedType.string c) = some c ∧
            c.2 = svc ∧ ∃ t, id c.2 = some t ∧ NamedType.implements t ["List"] = true) ∧
        ((∃ svc, find NamedType.implements o (.interface ["List"] "<store.Lister Value>") =
            .ok svc) ↔
          ∃ c ∈ twoServerCalls,
            twoServerCalls.find?
              (fun c' => Disco.callKey id NamedType.string c' =
                Disco.callKey id NamedType.string c) = some c ∧
            ∃ t, id c.2 = some t ∧ NamedType.implements t ["List"] = true) :=
  ⟨by decide, find_after_registerAll NamedType.implements NamedType.string id _ (by decide) _ _⟩

/-- On one server the second `store.Service` is refused as a duplicate, so `Find` does not
find the `List` method it has. -/
example :
    ∃ d, Disco.registerAll id NamedType.string Disco.new
        [("s", some billingStore), ("s", some catalogStore)] =
          .returned ([none, some "already registered: s/store.Service"], d) ∧
      find NamedType.implements d.reg (.interface ["List"] "<store.Lister Value>") =
        .error "not implemented: <store.Lister Value>" :=
  ⟨_, rfl, rfl⟩

end Lookup

end Porto.Discovery
