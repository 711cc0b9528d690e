import TemplateTree.Proofs.FlatScope
import TemplateTree.Proofs.ValueReading

/-!
# Contexts from data

A context is loaded from the members of an object or a mapping, one after the other, and the
two formats go about it in the same way: a member's key has to be a name, its data has to be a
value, and the name must not be empty, in this order. What differs is which keys are names and
which data is a value. A `MemberReader` says so, and everything else is said once for both.

Loading comes in two steps that do not interfere. Each member on its own is a binding, or is
refused for the first of three reasons (`binding`); then the bindings overwrite one another in
order (`load`). So a context is there if no member is refused, it binds a name as the last
member of that name does, and otherwise the first member that is refused is what the loading
fails for.
-/

namespace TemplateTree

namespace Context

theorem insert_eq (context : Context) (name : String) (value : Value) :
    context.insert name value
      = if name.isEmpty then .error .emptyName else .ok (context.overwrite [(name, value)]) :=
  rfl

/-- A name is refused or bound before anything else is done with the context. -/
theorem insert_bind (context : Context) (name : String) (value : Value)
    (next : Context → Except ValueError Context) :
    (context.insert name value >>= next)
      = (if name.isEmpty then .error .emptyName else .ok (name, value))
        >>= fun binding => next (context.overwrite [binding]) := by
  rw [insert_eq]
  split
  · rfl
  · rfl

end Context

/-- How the members of an object or a mapping are read. -/
structure MemberReader (κ δ : Type) where
  /-- The name that a key is, if it is one. -/
  name? : κ → Option String
  read : δ → Except ValueError Value

namespace MemberReader

def json : MemberReader String Json := ⟨some, Json.toValue⟩

def yaml : MemberReader Yaml Yaml := ⟨Yaml.name?, Yaml.toValue⟩

variable {κ δ : Type} (reader : MemberReader κ δ)

/-- The member binds the name to the value. -/
structure Binds (member : κ × δ) (name : String) (value : Value) : Prop where
  isName : reader.name? member.1 = some name
  ne_empty : name ≠ ""
  isValue : reader.read member.2 = .ok value

/-- Why the member binds nothing. A key that is no name counts first, then data that is no
value, and an empty name only if nothing else is wrong. -/
inductive Refused (member : κ × δ) : ValueError → Prop where
  | noName (hname : reader.name? member.1 = none) : Refused member .notAnObject
  | noValue {name : String} {e : ValueError} (hname : reader.name? member.1 = some name)
      (hvalue : reader.read member.2 = .error e) : Refused member e
  | emptyName {value : Value} (hname : reader.name? member.1 = some "")
      (hvalue : reader.read member.2 = .ok value) : Refused member .emptyName

/-- The last member with that name binds it to the value. -/
def LastBinds (members : List (κ × δ)) (name : String) (value : Value) : Prop :=
  ∃ before member after, members = before ++ member :: after ∧ reader.Binds member name value
    ∧ ∀ later ∈ after, reader.name? later.1 ≠ some name

/-- The outcome is exactly what the members say. -/
structure Loads (members : List (κ × δ)) (outcome : Except ValueError Context) : Prop where
  exists_eq_ok_iff : (∃ context, outcome = .ok context)
    ↔ ∀ member ∈ members, ∃ name value, reader.Binds member name value
  get?_eq_some_iff : ∀ context, outcome = .ok context → ∀ name value,
    context.get? name = some value ↔ reader.LastBinds members name value
  eq_error_iff : ∀ e, outcome = .error e
    ↔ ∃ before member after, members = before ++ member :: after
      ∧ (∀ earlier ∈ before, ∃ name value, reader.Binds earlier name value)
      ∧ reader.Refused member e

/-! ## One member -/

/-- What the member binds to what, or why it binds nothing. -/
def binding (member : κ × δ) : Except ValueError (String × Value) := do
  let name ← (reader.name? member.1).elim (.error .notAnObject) .ok
  let value ← reader.read member.2
  if name.isEmpty then .error .emptyName else .ok (name, value)

section Binding

variable {reader} {member : κ × δ}

theorem binding_of_name {name : String} (hname : reader.name? member.1 = some name) :
    reader.binding member = (do
      let value ← reader.read member.2
      if name.isEmpty then .error .emptyName else .ok (name, value)) := by
  rw [binding, hname]
  rfl

theorem binding_eq_ok_iff {name : String} {value : Value} :
    reader.binding member = .ok (name, value) ↔ reader.Binds member name value := by
  constructor
  · intro h
    cases hname : reader.name? member.1 with
    | none =>
        rw [binding, hname] at h
        cases h
    | some name' =>
        rw [binding_of_name hname, bind_eq_ok_iff] at h
        obtain ⟨value', hvalue, h⟩ := h
        split at h
        · cases h
        · next hempty =>
            cases h
            exact ⟨hname, mt String.isEmpty_iff.mpr hempty, hvalue⟩
  · rintro ⟨hname, hempty, hvalue⟩
    rw [binding_of_name hname, hvalue]
    exact if_neg (mt String.isEmpty_iff.mp hempty)

theorem exists_binding_iff :
    (∃ binding, reader.binding member = .ok binding)
      ↔ ∃ name value, reader.Binds member name value := by
  rw [Prod.exists]
  exact exists₂_congr fun name value => binding_eq_ok_iff

theorem binding_eq_error_iff {e : ValueError} :
    reader.binding member = .error e ↔ reader.Refused member e := by
  constructor
  · intro h
    cases hname : reader.name? member.1 with
    | none =>
        rw [binding, hname] at h
        cases h
        exact .noName hname
    | some name =>
        rw [binding_of_name hname] at h
        rcases bind_eq_error_iff.mp h with hvalue | ⟨value, hvalue, h⟩
        · exact .noValue hname hvalue
        · split at h
          · next hempty =>
              cases h
              rw [String.isEmpty_iff.mp hempty] at hname
              exact .emptyName hname hvalue
          · cases h
  · intro h
    cases h with
    | noName hname => rw [binding, hname]; rfl
    | noValue hname hvalue => rw [binding_of_name hname, hvalue]; rfl
    | emptyName hname hvalue => rw [binding_of_name hname, hvalue]; rfl

end Binding

theorem lastBinds_cons_iff {member : κ × δ} {members : List (κ × δ)} {name : String}
    {value : Value} :
    reader.LastBinds (member :: members) name value
      ↔ reader.LastBinds members name value
        ∨ reader.Binds member name value ∧ ∀ later ∈ members, reader.name? later.1 ≠ some name := by
  constructor
  · rintro ⟨before, last, after, hsplit, hbinds, hafter⟩
    cases before with
    | nil =>
        obtain ⟨rfl, rfl⟩ := List.cons.inj hsplit
        exact .inr ⟨hbinds, hafter⟩
    | cons first before =>
        obtain ⟨rfl, rfl⟩ := List.cons.inj hsplit
        exact .inl ⟨before, last, after, rfl, hbinds, hafter⟩
  · rintro (⟨before, last, after, rfl, hbinds, hafter⟩ | ⟨hbinds, hafter⟩)
    · exact ⟨member :: before, last, after, rfl, hbinds, hafter⟩
    · exact ⟨[], member, members, rfl, hbinds, hafter⟩

/-! ## All members -/

/-- The context with the bindings of all members put into it. -/
def load (context : Context) (members : List (κ × δ)) : Except ValueError Context := do
  return context.overwrite (← members.mapM reader.binding)

theorem load_nil (context : Context) : reader.load context [] = .ok context := by
  rw [load, List.mapM_nil]
  rfl

theorem load_cons (context : Context) (member : κ × δ) (members : List (κ × δ)) :
    reader.load context (member :: members)
      = (do
        let binding ← reader.binding member
        reader.load (context.overwrite [binding]) members) := by
  rw [load, List.mapM_cons]
  cases reader.binding member with
  | error e => rfl
  | ok binding =>
      show (members.mapM reader.binding >>= fun bindings => pure (binding :: bindings))
          >>= (fun bindings => pure (context.overwrite bindings)) = _
      rw [bind_assoc]
      rfl

theorem bindMembers_eq_load (context : Context) (members : List (String × Json)) :
    context.bindMembers members = json.load context members := by
  induction members generalizing context with
  | nil => rw [Context.bindMembers, load_nil]
  | cons member members ih =>
      obtain ⟨name, data⟩ := member
      rw [Context.bindMembers, load_cons, binding_of_name rfl, bind_assoc]
      refine bind_congr fun value => ?_
      rw [Context.insert_bind]
      exact bind_congr fun binding => ih _

theorem bindMapping_eq_load (context : Context) (members : List (Yaml × Yaml)) :
    context.bindMapping members = yaml.load context members := by
  induction members generalizing context with
  | nil => rw [Context.bindMapping, load_nil]
  | cons member members ih =>
      obtain ⟨key, data⟩ := member
      rw [Context.bindMapping, load_cons, binding, bind_assoc]
      refine bind_congr fun name => ?_
      rw [bind_assoc]
      refine bind_congr fun value => ?_
      rw [Context.insert_bind]
      exact bind_congr fun binding => ih _

/-- What the context holds in which the members have been bound. -/
theorem get?_overwrite_iff {members : List (κ × δ)} {bindings : List (String × Value)}
    (h : List.Forall₂ (fun member binding => reader.binding member = .ok binding) members bindings)
    (context : Context) (name : String) (value : Value) :
    (context.overwrite bindings).get? name = some value
      ↔ reader.LastBinds members name value
        ∨ context.get? name = some value ∧ ∀ member ∈ members, reader.name? member.1 ≠ some name := by
  induction h generalizing context with
  | nil =>
      rw [or_iff_right fun ⟨before, _, _, hsplit, _⟩ => by cases before <;> cases hsplit]
      exact ⟨fun h => ⟨h, nofun⟩, And.left⟩
  | @cons member binding members bindings hbinding _ ih =>
      obtain ⟨bound, content⟩ := binding
      have hbinds := binding_eq_ok_iff.mp hbinding
      -- A later member of the name counts first on both sides; what is left to compare is this
      -- member and what has been there before.
      rw [Context.overwrite_cons, ih, lastBinds_cons_iff, Context.get?_overwrite_singleton,
        or_assoc]
      refine or_congr_right ?_
      by_cases hname : bound = name
      · subst hname
        have hnone : ¬ (context.get? bound = some value
            ∧ ∀ later ∈ member :: members, reader.name? later.1 ≠ some bound) :=
          fun h => h.2 member List.mem_cons_self hbinds.isName
        rw [if_pos rfl, or_iff_left hnone]
        refine and_congr_left fun _ => ⟨fun h => ?_, fun h => ?_⟩
        · cases h
          exact hbinds
        · exact congrArg some (Except.ok.inj (hbinds.isValue.symm.trans h.isValue))
      · have hother : reader.name? member.1 ≠ some name := by
          rw [hbinds.isName]
          exact fun h => hname (Option.some.inj h)
        rw [if_neg hname, or_iff_right fun h => hother h.1.isName, List.forall_mem_cons,
          and_iff_right hother]

/-- Loading does what the members say. -/
theorem loads_load (members : List (κ × δ)) : reader.Loads members (reader.load ∅ members) where
  exists_eq_ok_iff := by
    simp only [← exists_binding_iff, ← exists_mapM_eq_ok_iff]
    constructor
    · rintro ⟨context, h⟩
      obtain ⟨bindings, hbindings, -⟩ := bind_eq_ok_iff.mp h
      exact ⟨bindings, hbindings⟩
    · rintro ⟨bindings, hbindings⟩
      exact ⟨_, bind_eq_ok_iff.mpr ⟨bindings, hbindings, rfl⟩⟩
  get?_eq_some_iff := by
    intro context h name value
    obtain ⟨bindings, hbindings, h⟩ := bind_eq_ok_iff.mp h
    cases h
    rw [reader.get?_overwrite_iff (mapM_eq_ok_iff.mp hbindings), Context.get?_empty]
    exact or_iff_left nofun
  eq_error_iff := by
    intro e
    simp only [← exists_binding_iff, ← binding_eq_error_iff, ← mapM_eq_error_iff]
    exact bind_pure_eq_error_iff

theorem Loads.get?_empty {reader : MemberReader κ δ} {members : List (κ × δ)}
    {outcome : Except ValueError Context} {context : Context} (h : reader.Loads members outcome)
    (hok : outcome = .ok context) : context.get? "" = none := by
  refine Option.eq_none_iff_forall_ne_some.mpr fun value hvalue => ?_
  obtain ⟨_, _, _, -, hbinds, -⟩ := (h.get?_eq_some_iff context hok "" value).mp hvalue
  exact hbinds.ne_empty rfl

/-! ## The same members in another order -/

/-- Where no two members have one name, each is the last of its name. -/
theorem lastBinds_iff_of_nodup {members : List (κ × δ)}
    (h : (members.map fun member => reader.name? member.1).Nodup) {name : String} {value : Value} :
    reader.LastBinds members name value ↔ ∃ member ∈ members, reader.Binds member name value := by
  constructor
  · rintro ⟨before, member, after, rfl, hbinds, -⟩
    exact ⟨member, List.mem_append_right before List.mem_cons_self, hbinds⟩
  · rintro ⟨member, hmember, hbinds⟩
    obtain ⟨before, after, rfl⟩ := List.append_of_mem hmember
    refine ⟨before, member, after, rfl, hbinds, fun later hlater heq => ?_⟩
    rw [List.map_append, List.map_cons, List.nodup_append, List.nodup_cons] at h
    refine h.2.1.1 ?_
    rw [hbinds.isName, ← heq]
    exact List.mem_map_of_mem hlater

section Matches

variable {κ' δ' : Type} {reader} {reader' : MemberReader κ' δ'} {members : List (κ × δ)}
  {members' : List (κ' × δ')} {outcome outcome' : Except ValueError Context}

/-- Each of the members binds what one of the others does. -/
def Matches (reader : MemberReader κ δ) (reader' : MemberReader κ' δ') (members : List (κ × δ))
    (members' : List (κ' × δ')) : Prop :=
  ∀ member ∈ members, ∃ member' ∈ members', ∀ name value,
    reader.Binds member name value ↔ reader'.Binds member' name value

theorem Matches.exists_binds {name : String} {value : Value}
    (h : reader.Matches reader' members members')
    (hbinds : ∃ member ∈ members, reader.Binds member name value) :
    ∃ member' ∈ members', reader'.Binds member' name value := by
  obtain ⟨member, hmember, hbinds⟩ := hbinds
  obtain ⟨member', hmember', hiff⟩ := h member hmember
  exact ⟨member', hmember', (hiff name value).mp hbinds⟩

/-- Of members with different names, it does not matter in which order they are loaded. -/
theorem Loads.eq_ok_of_matches (h : reader.Loads members outcome)
    (h' : reader'.Loads members' outcome')
    (hnodup : (members.map fun member => reader.name? member.1).Nodup)
    (hnodup' : (members'.map fun member => reader'.name? member.1).Nodup)
    (hmatches : reader.Matches reader' members members')
    (hmatches' : reader'.Matches reader members' members) {context : Context}
    (hok : outcome = .ok context) : outcome' = .ok context := by
  have hall : ∀ member' ∈ members', ∃ name value, reader'.Binds member' name value := by
    intro member' hmember'
    obtain ⟨member, hmember, hiff⟩ := hmatches' member' hmember'
    obtain ⟨name, value, hbinds⟩ := h.exists_eq_ok_iff.mp ⟨context, hok⟩ member hmember
    exact ⟨name, value, (hiff name value).mpr hbinds⟩
  obtain ⟨context', hok'⟩ := h'.exists_eq_ok_iff.mpr hall
  have hcontext : context' = context := by
    refine Context.ext fun name => Option.ext fun value => ?_
    rw [h'.get?_eq_some_iff context' hok', h.get?_eq_some_iff context hok,
      reader'.lastBinds_iff_of_nodup hnodup', reader.lastBinds_iff_of_nodup hnodup]
    exact ⟨hmatches'.exists_binds, hmatches.exists_binds⟩
  rw [hok', hcontext]

end Matches

/-- A member of an object as a member of a mapping. -/
def toYaml (member : String × Json) : Yaml × Yaml :=
  (.string member.1, member.2.toYaml)

theorem binds_toYaml_iff {member : String × Json}
    (hintegral : ∀ part : Json, part.OccursIn member.2 → part.IsIntegral) (name : String)
    (value : Value) : yaml.Binds (toYaml member) name value ↔ json.Binds member name value := by
  have hvalue : yaml.read (toYaml member).2 = .ok value ↔ json.read member.2 = .ok value :=
    toValue_toYaml_iff hintegral
  exact ⟨fun h => ⟨h.isName, h.ne_empty, hvalue.mp h.isValue⟩,
    fun h => ⟨h.isName, h.ne_empty, hvalue.mpr h.isValue⟩⟩

end MemberReader

theorem nodup_of_sortedByKey {α : Type} {pairs : List (String × α)} (h : SortedByKey pairs) :
    (pairs.map fun pair => some pair.1).Nodup := by
  refine List.Pairwise.map _ (fun pair other hlt heq => ?_) h
  rw [Option.some.inj heq] at hlt
  exact String.lt_irrefl _ hlt

namespace Context

theorem loads_ofJson (members : List (String × Json)) :
    MemberReader.json.Loads (sortByKey members) (ofJson (.object members)) := by
  rw [ofJson, MemberReader.bindMembers_eq_load]
  exact MemberReader.json.loads_load _

theorem loads_ofYaml (members : List (Yaml × Yaml)) :
    MemberReader.yaml.Loads members (ofYaml (.mapping members)) := by
  rw [ofYaml, MemberReader.bindMapping_eq_load]
  exact MemberReader.yaml.loads_load _

/-- An object and a mapping of the same members, in any order, are the same context. -/
theorem ofYaml_mapping_eq_ok_iff {members : List (String × Json)} {members' : List (Yaml × Yaml)}
    (hintegral : ∀ member ∈ sortByKey members, ∀ part : Json, part.OccursIn member.2 →
      part.IsIntegral)
    (hperm : members'.Perm ((sortByKey members).map MemberReader.toYaml)) {context : Context} :
    ofYaml (.mapping members') = .ok context ↔ ofJson (.object members) = .ok context := by
  have hnodup : ((sortByKey members).map fun member =>
      MemberReader.json.name? member.1).Nodup :=
    nodup_of_sortedByKey (sortedByKey_sortByKey members)
  have hnodup' : (members'.map fun member => MemberReader.yaml.name? member.1).Nodup := by
    rw [(hperm.map _).nodup_iff, List.map_map]
    exact hnodup
  have hmatches : MemberReader.json.Matches .yaml (sortByKey members) members' := by
    intro member hmember
    refine ⟨_, hperm.mem_iff.mpr (List.mem_map_of_mem hmember), fun name value => ?_⟩
    exact (MemberReader.binds_toYaml_iff (hintegral member hmember) name value).symm
  have hmatches' : MemberReader.yaml.Matches .json members' (sortByKey members) := by
    intro member' hmember'
    obtain ⟨member, hmember, rfl⟩ := List.mem_map.mp (hperm.mem_iff.mp hmember')
    exact ⟨member, hmember, MemberReader.binds_toYaml_iff (hintegral member hmember)⟩
  exact ⟨(loads_ofYaml members').eq_ok_of_matches (loads_ofJson members) hnodup' hnodup
      hmatches' hmatches,
    (loads_ofJson members).eq_ok_of_matches (loads_ofYaml members') hnodup hnodup'
      hmatches hmatches'⟩

end Context

/-- A key is a name if it is text, whatever its tags. -/
theorem Yaml.name?_eq_some_iff {key : Yaml} {name : String} :
    key.name? = some name ↔ key.untagged = .string name := by
  induction key using Yaml.induct_items with
  | string s => rw [name?, untagged, Option.some.injEq, string.injEq]
  | tagged tag data ih => rw [name?, untagged, ih]
  | null | bool _ | number _ | sequence _ _ | mapping _ =>
      rw [untagged]
      constructor
      · intro h
        cases h
      · intro h
        cases h

/-- A context is loaded from an object, member by member in the order of the names, and from a
mapping in its own order. It is there if all keys are names that are not empty and all data is
values; then it binds a name to what the last member of that name has for it, and no other
names. Otherwise the loading fails for the first member that is refused. Other data is no
context, except that a YAML null is the empty one. And an object is the same context as the
mapping of its members in any order, if there are no floating-point numbers in it. -/
theorem load_context_exact :
    (∀ members : List (String × Json),
        SortedByKey (sortByKey members)
          ∧ MemberReader.json.Loads (sortByKey members) (Context.ofJson (.object members)))
      ∧ (∀ data : Json, ¬ data.IsObject → Context.ofJson data = .error .notAnObject)
      ∧ (∀ members : List (Yaml × Yaml),
        MemberReader.yaml.Loads members (Context.ofYaml (.mapping members)))
      ∧ (∀ key name, Yaml.name? key = some name ↔ key.untagged = .string name)
      ∧ Context.ofYaml .null = .ok ∅
      ∧ (∀ data : Yaml, data ≠ .null → ¬ data.IsMapping →
        Context.ofYaml data = .error .notAnObject)
      ∧ (∀ (data : Json) e, data.toValue = .error e → e = .unsupported "object")
      ∧ (∀ (data : Yaml) e, data.toValue = .error e → e = .unsupported "mapping")
      ∧ ∀ (members : List (String × Json)) (members' : List (Yaml × Yaml)),
        (∀ member ∈ sortByKey members, ∀ part : Json, part.OccursIn member.2 → part.IsIntegral) →
        members'.Perm ((sortByKey members).map MemberReader.toYaml) →
        ∀ context, Context.ofYaml (.mapping members') = .ok context
          ↔ Context.ofJson (.object members) = .ok context := by
  refine ⟨fun members => ⟨sortedByKey_sortByKey members, Context.loads_ofJson members⟩,
    fun data h => ?_, Context.loads_ofYaml, fun key name => Yaml.name?_eq_some_iff, rfl,
    fun data hnull h => ?_, fun data e => Json.eq_of_toValue_eq_error,
    fun data e => Yaml.eq_of_toValue_eq_error,
    fun members members' hintegral hperm context =>
      Context.ofYaml_mapping_eq_ok_iff hintegral hperm⟩
  · cases data with
    | object members => exact absurd trivial h
    | _ => rfl
  · cases data with
    | mapping members => exact absurd trivial h
    | null => exact absurd rfl hnull
    | _ => rfl

def settings : List (String × Json) :=
  [("width", .number (.integer 80)), ("title", .list [.string "a", .null])]

def yamlSettings : List (Yaml × Yaml) :=
  [(.string "width", .number (.integer 80)), (.string "title", .sequence [.string "a", .null])]

/-- The object is gone through in the order of the names, the mapping in its own. -/
theorem load_context_exact_settings :
    (∀ member ∈ sortByKey settings, ∀ part : Json, part.OccursIn member.2 → part.IsIntegral)
      ∧ yamlSettings.Perm ((sortByKey settings).map MemberReader.toYaml)
      ∧ ∃ context, Context.ofYaml (.mapping yamlSettings) = .ok context
        ∧ Context.ofJson (.object settings) = .ok context
        ∧ context.get? "title" = some (.list [.text "a", .text ""]) := by
  have hsorted : sortByKey settings
      = [("title", .list [.string "a", .null]), ("width", .number (.integer 80))] := rfl
  have hintegral : ∀ member ∈ sortByKey settings, ∀ part : Json, part.OccursIn member.2 →
      part.IsIntegral := by
    rw [hsorted]
    intro member hmember
    rcases List.mem_pair.mp hmember with rfl | rfl
    · rw [Json.forall_occursIn_list trivial]
      intro item hitem part hpart
      rcases List.mem_pair.mp hitem with rfl | rfl
      · cases hpart
        trivial
      · cases hpart
        trivial
    · intro part hpart
      cases hpart
      trivial
  have hperm : yamlSettings.Perm ((sortByKey settings).map MemberReader.toYaml) := by
    rw [hsorted]
    exact List.Perm.swap _ _ _
  obtain ⟨hjson, -, -, -, -, -, -, -, hsame⟩ := load_context_exact
  have htitle : MemberReader.json.Binds ("title", .list [.string "a", .null]) "title"
      (.list [.text "a", .text ""]) := ⟨rfl, by decide, by decide +kernel⟩
  have hwidth : MemberReader.json.Binds ("width", .number (.integer 80)) "width" (.text "80") :=
    ⟨rfl, by decide, by decide +kernel⟩
  have hloads := (hjson settings).2
  rw [hsorted] at hloads
  obtain ⟨context, hcontext⟩ := hloads.exists_eq_ok_iff.mpr fun member hmember => by
    rcases List.mem_pair.mp hmember with rfl | rfl
    · exact ⟨_, _, htitle⟩
    · exact ⟨_, _, hwidth⟩
  refine ⟨hintegral, hperm, context,
    (hsame settings yamlSettings hintegral hperm context).mpr hcontext, hcontext, ?_⟩
  refine (hloads.get?_eq_some_iff context hcontext "title" _).mpr ⟨[], _, _, rfl, htitle, ?_⟩
  intro later hlater
  obtain rfl := List.mem_singleton.mp hlater
  decide

end TemplateTree
