import Stackwright.Proofs.Stack.RulePriority

/-!
The host names that a rule asks for. The aliases of a service are handed over as one text, and the
rule takes that text apart at its commas.
-/

namespace Stackwright

section Splitting

variable {α : Type} [BEq α] [LawfulBEq α] {separator : α} {parts : List (List α)}

theorem splitOn_intercalate_eq_flatMap (nonempty : parts ≠ []) :
    ([separator].intercalate parts).splitOn separator =
      parts.flatMap (List.splitOn separator) := by
  induction parts with
  | nil => exact absurd rfl nonempty
  | cons part rest ih =>
      cases rest with
      | nil => simp
      | cons next others =>
          have inner := ih (List.cons_ne_nil _ _)
          rw [List.intercalate_cons_cons, List.append_assoc, List.singleton_append,
            List.splitOn_append_cons_self, inner]
          rfl

theorem not_mem_of_mem_splitOn {whole piece : List α}
    (member : piece ∈ whole.splitOn separator) : separator ∉ piece := by
  by_cases inside : separator ∈ whole
  · obtain ⟨before, after, parted⟩ := List.append_of_mem inside
    have lengths : whole.length = before.length + (after.length + 1) := by simp [parted]
    rw [parted, List.splitOn_append_cons_self] at member
    rcases List.mem_append.mp member with first | second
    · exact not_mem_of_mem_splitOn first
    · exact not_mem_of_mem_splitOn second
  · rw [List.splitOn_eq_singleton inside, List.mem_singleton] at member
    rw [member]
    exact inside
termination_by whole.length

theorem flatMap_splitOn_eq_iff (nonempty : parts ≠ []) :
    parts.flatMap (List.splitOn separator) = parts ↔ ∀ part ∈ parts, separator ∉ part := by
  rw [← splitOn_intercalate_eq_flatMap nonempty]
  constructor
  · intro same part member
    rw [← same] at member
    exact not_mem_of_mem_splitOn member
  · intro outside
    exact List.splitOn_intercalate separator outside nonempty

end Splitting

def commaPieces (text : String) : List String := (text.toList.splitOn ',').map String.ofList

theorem commaPieces_intercalate {texts : List String} (nonempty : texts ≠ []) :
    commaPieces (",".intercalate texts) = texts.flatMap commaPieces := by
  have separator : ",".toList = [','] := rfl
  have parts : texts.map String.toList ≠ [] := by simpa using nonempty
  rw [commaPieces, String.toList_intercalate, separator, splitOn_intercalate_eq_flatMap parts,
    List.map_flatMap, List.flatMap_map]
  rfl

theorem flatMap_commaPieces_eq_iff {texts : List String} (nonempty : texts ≠ []) :
    texts.flatMap commaPieces = texts ↔ ∀ text ∈ texts, ',' ∉ text.toList := by
  have parts : texts.map String.toList ≠ [] := by simpa using nonempty
  have pieces : (texts.flatMap commaPieces).map String.toList =
      (texts.map String.toList).flatMap (List.splitOn ',') := by
    rw [List.map_flatMap, List.flatMap_map]
    simp [commaPieces, Function.comp_def]
  have characters : texts.flatMap commaPieces = texts ↔
      (texts.map String.toList).flatMap (List.splitOn ',') = texts.map String.toList := by
    rw [← pieces]
    exact (List.map_inj_right fun _ _ => String.toList_inj.mp).symm
  rw [characters, flatMap_splitOn_eq_iff parts, List.forall_mem_map]

theorem intercalate_eq_empty_iff {texts : List String} :
    ",".intercalate texts = "" ↔ texts = [] ∨ texts = [""] := by
  cases texts with
  | nil => simp
  | cons text rest =>
      cases rest with
      | nil => simp
      | cons next others => simp [String.append_eq_empty_iff]

/-- A text taken apart at a delimiter of one character, as all delimiters are. -/
def splitText? (delimiter text : String) : Option (List String) :=
  match delimiter.toList with
  | [c] => some ((text.toList.splitOn c).map String.ofList)
  | _ => none

def Expr.evaluateList? (value? : String → Option String) : Expr → Option (List String)
  | .list items => items.mapM (Expr.evaluate? value?)
  | .split delimiter source => (source.evaluate? value?).bind (splitText? delimiter)
  | _ => none

/-- An entry of a list is left out where it comes to no value. -/
def Expr.isLeftOut : Expr → Bool
  | .ref name => name = "AWS::NoValue"
  | _ => false

def Expr.isHostHeader (condition : Expr) : Bool :=
  (condition.field? "Field").bind Expr.text? = some "host-header"

namespace Stack

variable (stack : Stack) (rule : Resource)

def asks : List Expr :=
  match rule.properties.field? "Conditions" with
  | some conditions =>
    (conditions.resolved stack.scope.decides).items.filter fun entry => !entry.isLeftOut
  | none => []

def hosts : List (Option (List String)) :=
  ((stack.asks rule).filter Expr.isHostHeader).map fun condition =>
    ((condition.field? "HostHeaderConfig").bind (Expr.field? "Values")).bind
      (Expr.evaluateList? stack.value?)

end Stack

def aliasHosts (aliases : List String) : List (Option (List String)) :=
  if aliases = [] then [] else [some aliases]

section

variable (plan : Plan) (routing : Routing) (suffix : UniqueSuffix)

def httpsRule : Resource :=
  listenerRule httpsToo httpsListener forward [pathCondition, hostCondition]

def hostHeader : Expr :=
  .record [
    ("Field", .text "host-header"),
    ("HostHeaderConfig", .record [("Values", .split "," ParameterKey.aliases.ref)])]

theorem itemsResolved_eq_map (decides : String → Option Bool) (items : List Expr) :
    itemsResolved decides items = items.map (Expr.resolved decides) := by
  induction items with
  | nil => rfl
  | cons item rest ih => rw [itemsResolved, ih, List.map_cons]

theorem hostCondition_resolved {decides : String → Option Bool} {aliased : Bool}
    (decided : decides hasAliases = some aliased) :
    hostCondition.resolved decides = if aliased then hostHeader else .noValue := by
  cases aliased <;> simp [hostCondition, Expr.resolved, decided] <;> rfl

theorem pathCondition_isHostHeader (decides : String → Option Bool) :
    (pathCondition.resolved decides).isHostHeader = false := by
  simp [pathCondition, Expr.resolved, fieldsResolved, Expr.isHostHeader, Expr.field?, findEntry,
    Expr.text?]

theorem listenerRule_asks (stack : Stack) {condition : String} {listener action : Expr}
    {conditions : List Expr} :
    stack.asks (listenerRule condition listener action conditions) =
      (conditions.map (Expr.resolved stack.scope.decides)).filter fun entry => !entry.isLeftOut := by
  simp [Stack.asks, listenerRule, Expr.field?, findEntry, Expr.resolved, itemsResolved_eq_map,
    Expr.items]

theorem hostHeader_hosts {stack : Stack} {text : String}
    (valued : stack.value? ParameterKey.aliases.text = some text) :
    ((hostHeader.field? "HostHeaderConfig").bind (Expr.field? "Values")).bind
      (Expr.evaluateList? stack.value?) = some (commaPieces text) := by
  simp [hostHeader, Expr.field?, findEntry, Expr.evaluateList?, ParameterKey.ref,
    Expr.evaluate?, valued, splitText?, commaPieces]

theorem httpsRule_hosts : (loadBalancedStack plan routing suffix).hosts httpsRule =
    if routing.aliases = [] ∨ routing.aliases = [""] then []
    else [some (routing.aliases.flatMap commaPieces)] := by
  have valued : (loadBalancedStack plan routing suffix).value? ParameterKey.aliases.text =
      some (",".intercalate routing.aliases) := loadBalanced_value plan routing suffix .aliases rfl
  have decided := loadBalanced_decides_aliases plan routing suffix
  have notPath := pathCondition_isHostHeader (loadBalancedStack plan routing suffix).scope.decides
  have pathAsked : (pathCondition.resolved
      (loadBalancedStack plan routing suffix).scope.decides).isLeftOut = false := rfl
  rw [Stack.hosts, httpsRule, listenerRule_asks, List.map_cons, List.map_singleton,
    hostCondition_resolved decided]
  by_cases hostless : routing.aliases = [] ∨ routing.aliases = [""]
  · have leftOut : Expr.noValue.isLeftOut = true := rfl
    simp [intercalate_eq_empty_iff.mpr hostless, pathAsked, leftOut, notPath, hostless]
  · have given : ¬ ",".intercalate routing.aliases = "" := mt intercalate_eq_empty_iff.mp hostless
    have asked : hostHeader.isLeftOut = false := rfl
    have onHost : hostHeader.isHostHeader = true := rfl
    have aliased : routing.aliases ≠ [] := fun unaliased => hostless (.inl unaliased)
    rw [if_neg hostless, ← commaPieces_intercalate aliased]
    simp [given, pathAsked, asked, notPath, onHost, hostHeader_hosts valued]

/-- The hosts are just the aliases if no alias holds a comma, or is empty and the only one. -/
theorem httpsRule_hosts_iff :
    (loadBalancedStack plan routing suffix).hosts httpsRule = aliasHosts routing.aliases ↔
      (∀ name ∈ routing.aliases, ',' ∉ name.toList) ∧ routing.aliases ≠ [""] := by
  rw [httpsRule_hosts, aliasHosts]
  by_cases unaliased : routing.aliases = []
  · simp [unaliased]
  · by_cases emptyOnly : routing.aliases = [""]
    · simp [emptyOnly]
    · have kept := flatMap_commaPieces_eq_iff unaliased
      simp [unaliased, emptyOnly, kept]

end

theorem compile_httpsRule {workload : Workload} {app environment : String}
    {settings : Settings} {fresh : UniqueSuffix} {stack : Stack}
    (balanced : workload.kind = .loadBalanced) (https : settings.httpsListener = true)
    (compiled : compile workload app environment settings fresh = .ok stack) :
    ∃ plan routing suffix http, stack = loadBalancedStack plan routing suffix ∧
      workload.http = some http ∧ routing.aliases = http.aliases.getD [] ∧
      stack.HasRule Role.httpsListenerRule.id httpsRule := by
  obtain ⟨plan, routing, suffix, planned, routed, _, rfl⟩ := compile_loadBalanced balanced compiled
  obtain ⟨http, _, _, _, exposed, _, _, _, _, made⟩ := Routing.of_eq_ok_iff.mp routed
  rw [Plan.of_workload planned] at exposed
  rw [← Plan.of_settings planned] at https
  have hasRule := (loadBalanced_hasRule_iff plan routing suffix).mpr (.inr (.inl ⟨rfl, https, rfl⟩))
  exact ⟨plan, routing, suffix, http, rfl, exposed, congrArg Routing.aliases made, hasRule⟩

/-- The rule for HTTPS asks for the pieces of the aliases between their commas, and for no host if
there is no alias or only an empty one. These are just the aliases if none of them holds a comma,
and an empty one is not the only one. -/
theorem hosts_eq_aliases_iff {workload : Workload} {app environment : String}
    {settings : Settings} {fresh : UniqueSuffix} {stack : Stack}
    (balanced : workload.kind = .loadBalanced) (https : settings.httpsListener = true)
    (compiled : compile workload app environment settings fresh = .ok stack) :
    ∃ http aliases rule, workload.http = some http ∧ aliases = http.aliases.getD [] ∧
      stack.HasRule Role.httpsListenerRule.id rule ∧
      stack.hosts rule =
        (if aliases = [] ∨ aliases = [""] then [] else [some (aliases.flatMap commaPieces)]) ∧
      (stack.hosts rule = aliasHosts aliases ↔
        (∀ name ∈ aliases, ',' ∉ name.toList) ∧ aliases ≠ [""]) := by
  obtain ⟨plan, routing, suffix, http, rfl, exposed, aliases, hasRule⟩ :=
    compile_httpsRule balanced https compiled
  exact ⟨http, routing.aliases, httpsRule, exposed, aliases, hasRule,
    httpsRule_hosts plan routing suffix, httpsRule_hosts_iff plan routing suffix⟩

def Workload.aliased (name : String) (aliases : List String) : Workload :=
  { runnable name .loadBalanced with
    http := some ⟨some "/", none, none, none, none, none, some aliases⟩ }

theorem hosts_eq_aliases_served : ∃ stack rule,
    compile (.aliased "api" ["a.example.com", "b.example.com"]) "shop" "test"
        { httpsListener := true } ⟨"s1", by decide, by decide, by decide⟩ = .ok stack ∧
      stack.HasRule Role.httpsListenerRule.id rule ∧
      stack.hosts rule = [some ["a.example.com", "b.example.com"]] := by
  obtain ⟨stack, compiled⟩ : ∃ stack,
      compile (.aliased "api" ["a.example.com", "b.example.com"]) "shop" "test"
        { httpsListener := true } ⟨"s1", by decide, by decide, by decide⟩ = .ok stack := ⟨_, rfl⟩
  obtain ⟨http, _, rule, exposed, rfl, hasRule, _, hosts⟩ := hosts_eq_aliases_iff rfl rfl compiled
  cases exposed
  exact ⟨stack, rule, compiled, hasRule, hosts.mpr (by decide)⟩

/-- A service whose only alias is empty is served for every host. -/
theorem emptyAlias_anyHost : ∃ stack rule,
    compile (.aliased "api" [""]) "shop" "test" { httpsListener := true }
        ⟨"s1", by decide, by decide, by decide⟩ = .ok stack ∧
      stack.HasRule Role.httpsListenerRule.id rule ∧
      stack.hosts rule = [] ∧ stack.hosts rule ≠ aliasHosts [""] := by
  obtain ⟨stack, compiled⟩ : ∃ stack, compile (.aliased "api" [""]) "shop" "test"
      { httpsListener := true } ⟨"s1", by decide, by decide, by decide⟩ = .ok stack := ⟨_, rfl⟩
  obtain ⟨plan, routing, suffix, http, rfl, exposed, aliases, hasRule⟩ :=
    compile_httpsRule rfl rfl compiled
  cases exposed
  have noHost : (loadBalancedStack plan routing suffix).hosts httpsRule = [] := by
    rw [httpsRule_hosts, aliases]
    rfl
  refine ⟨_, httpsRule, compiled, hasRule, noHost, ?_⟩
  rw [noHost]
  simp [aliasHosts]

end Stackwright
