import Stackwright.Proofs.Stack.CreationOrder
import Stackwright.Proofs.Stack.HostHeader
import Stackwright.Proofs.Stack.Outline
import Stackwright.Proofs.Template.Substitution
import Stackwright.Proofs.Text.Trimming

/-!
What the listener rules of a stack do, once its conditions are decided and its patterns filled: on
which listener they stand, where they send requests, and for which paths.
-/

namespace Stackwright

def Expr.textList? (value? : String → Option String) : Expr → Option (List String)
  | .list items => items.mapM (Expr.comesTo? value?)
  | _ => none

def Expr.isPathPattern (condition : Expr) : Bool :=
  (condition.field? "Field").bind Expr.text? = some "path-pattern"

inductive RuleAction where
  | forward (group : String)
  | redirect (protocol : String)

def Expr.ruleAction? (action : Expr) : Option RuleAction :=
  match (action.field? "Type").bind Expr.text? with
  | some "forward" =>
    match action.field? "TargetGroupArn" with
    | some (.ref group) => some (.forward group)
    | _ => none
  | some "redirect" =>
    (((action.field? "RedirectConfig").bind (Expr.field? "Protocol")).bind Expr.text?).map .redirect
  | _ => none

def Resource.actions (rule : Resource) : List (Option RuleAction) :=
  match rule.properties.field? "Actions" with
  | some actions => actions.items.map Expr.ruleAction?
  | none => []

structure RuleMeaning where
  listener : Option String
  actions : List (Option RuleAction)
  paths : List (Option (List String))

namespace Stack

variable (stack : Stack) (attributes : Attributes) (rule : Resource)

def paths : List (Option (List String)) :=
  ((stack.asks rule).filter Expr.isPathPattern).map fun condition =>
    ((condition.field? "PathPatternConfig").bind (Expr.field? "Values")).bind
      (Expr.textList? stack.value?)

def meaning : RuleMeaning where
  listener := stack.listener? attributes rule
  actions := rule.actions
  paths := stack.paths rule

def Means (id : String) (meaning : RuleMeaning) : Prop :=
  ∃ rule, stack.HasRule id rule ∧ stack.meaning attributes rule = meaning

end Stack

section

variable (attributes : Attributes)

def ruleOn (listener : String) (action : RuleAction) (paths : List String) : RuleMeaning :=
  ⟨some (attributes Role.envControllerAction.id listener), [some action], [some paths]⟩

/-- The rules for some paths: one that forwards, and with HTTPS another that redirects to it. -/
def rulesFor (https : Bool) (paths : List String) : List (String × RuleMeaning) :=
  if https then
    [(Role.httpsListenerRule.id,
      ruleOn attributes "HTTPSListenerArn" (.forward Role.targetGroup.id) paths),
     (Role.httpRedirectRule.id, ruleOn attributes "HTTPListenerArn" (.redirect "HTTPS") paths)]
  else
    [(Role.httpListenerRule.id,
      ruleOn attributes "HTTPListenerArn" (.forward Role.targetGroup.id) paths)]

def pathPatterns (inner : List Char) : List String :=
  if inner = [] then ["/*"]
  else ["/" ++ String.ofList inner, "/" ++ String.ofList inner ++ "/*"]

end

def Workload.atPath (workload : Workload) (path : String) : Workload :=
  { workload with http := workload.http.map fun http => { http with path := some path } }

theorem rulePath_patterns {value? : String → Option String} {value : String}
    (valued : value? ParameterKey.rulePath.text = some value) :
    (Expr.list [.substitute "/$\x7bRulePath\x7d", .substitute "/$\x7bRulePath\x7d/*"]).textList?
      value? = some ["/" ++ value, "/" ++ value ++ "/*"] := by
  have named : nameText? value? "RulePath".toList = some value.toList := by
    show (value? ParameterKey.rulePath.text).map String.toList = _
    rw [valued]
    rfl
  have filled : ∀ after : String, '$' ∉ after.toList →
      patternText? value? ("/" ++ "$\x7b" ++ "RulePath" ++ "\x7d" ++ after) =
        some ("/" ++ value ++ after) := by
    intro after noDollar
    exact patternText?_between "/" after (by decide) (by decide) named
      (fun held => noDollar (mem_of_holdsPlaceholder held).1)
  have pattern : "/$\x7bRulePath\x7d" = "/" ++ "$\x7b" ++ "RulePath" ++ "\x7d" ++ "" := by decide
  have patternBelow : "/$\x7bRulePath\x7d/*" = "/" ++ "$\x7b" ++ "RulePath" ++ "\x7d" ++ "/*" := by
    decide
  have itself := filled "" (by decide)
  have below := filled "/*" (by decide)
  rw [← pattern, String.append_empty] at itself
  rw [← patternBelow] at below
  simp [Expr.textList?, Expr.comesTo?, itself, below]

section

variable (plan : Plan) (routing : Routing) (suffix : UniqueSuffix) (attributes : Attributes)

def pathPattern (values : Expr) : Expr :=
  .record [("Field", .text "path-pattern"), ("PathPatternConfig", .record [("Values", values)])]

theorem pathCondition_resolved {decides : String → Option Bool} {root : Bool}
    (decided : decides isRootPath = some root) :
    pathCondition.resolved decides = pathPattern
      (if root then .texts ["/*"]
        else .list [.substitute "/$\x7bRulePath\x7d", .substitute "/$\x7bRulePath\x7d/*"]) := by
  cases root <;>
    simp [pathCondition, Expr.resolved, fieldsResolved, itemsResolved, decided, pathPattern,
      Expr.texts]

def Pathless (decides : String → Option Bool) (conditions : List Expr) : Prop :=
  (conditions.map (Expr.resolved decides)).filter
    (fun entry => entry.isPathPattern && !entry.isLeftOut) = []

theorem hostCondition_pathless :
    Pathless (loadBalancedStack plan routing suffix).scope.decides [hostCondition] := by
  rw [Pathless, List.map_singleton,
    hostCondition_resolved (loadBalanced_decides_aliases plan routing suffix)]
  cases decide (",".intercalate routing.aliases = "") <;> rfl

def Routing.patterns (routing : Routing) : List String :=
  if routing.path = "/" then ["/*"] else ["/" ++ routing.path, "/" ++ routing.path ++ "/*"]

/-- A rule asks for the path of the service, whatever else it may ask for. -/
theorem listenerRule_paths {condition : String} {listener action : Expr} {others : List Expr}
    (pathless : Pathless (loadBalancedStack plan routing suffix).scope.decides others) :
    (loadBalancedStack plan routing suffix).paths
        (listenerRule condition listener action (pathCondition :: others)) =
      [some routing.patterns] := by
  have valued : (loadBalancedStack plan routing suffix).value? ParameterKey.rulePath.text =
      some routing.path := loadBalanced_value plan routing suffix .rulePath rfl
  have decided := loadBalanced_decides_root plan routing suffix
  have values : ∀ values, ((pathPattern values).field? "PathPatternConfig").bind
      (Expr.field? "Values") = some values := fun _ => rfl
  rw [Stack.paths, listenerRule_asks, List.filter_filter, List.map_cons,
    pathCondition_resolved decided, List.filter_cons_of_pos rfl, pathless, List.map_singleton,
    values, Option.bind_some, Routing.patterns]
  by_cases root : routing.path = "/"
  · rw [if_pos root, if_pos (decide_eq_true root)]
    rfl
  · rw [if_neg root, if_neg (by simpa using root), rulePath_patterns valued]

theorem listenerRule_meaning {condition name : String} {action : Expr} {others : List Expr}
    {does : RuleAction} (acts : action.ruleAction? = some does)
    (pathless : Pathless (loadBalancedStack plan routing suffix).scope.decides others) :
    (loadBalancedStack plan routing suffix).meaning attributes
        (listenerRule condition (Role.envControllerAction.get name) action
          (pathCondition :: others)) =
      ruleOn attributes name does routing.patterns := by
  rw [Stack.meaning, listenerRule_listener, listenerRule_paths plan routing suffix pathless,
    Resource.actions, listenerRule_actions, ruleOn, ← acts]
  rfl

theorem forward_acts : forward.ruleAction? = some (.forward Role.targetGroup.id) := by
  simp [forward, Expr.ruleAction?, Expr.field?, findEntry, Expr.text?, Role.ref]

theorem redirect_acts : redirect.ruleAction? = some (.redirect "HTTPS") := by
  simp [redirect, Expr.ruleAction?, Expr.field?, findEntry, Expr.text?]

theorem loadBalanced_means_iff {id : String} {meaning : RuleMeaning} :
    (loadBalancedStack plan routing suffix).Means attributes id meaning ↔
      (id, meaning) ∈ rulesFor attributes plan.settings.httpsListener routing.patterns := by
  have plain : (loadBalancedStack plan routing suffix).meaning attributes
      (listenerRule httpOnly httpListener forward [pathCondition]) =
        ruleOn attributes "HTTPListenerArn" (.forward Role.targetGroup.id) routing.patterns :=
    listenerRule_meaning plan routing suffix attributes forward_acts rfl
  have secure : (loadBalancedStack plan routing suffix).meaning attributes
      (listenerRule httpsToo httpsListener forward [pathCondition, hostCondition]) =
        ruleOn attributes "HTTPSListenerArn" (.forward Role.targetGroup.id) routing.patterns :=
    listenerRule_meaning plan routing suffix attributes forward_acts
      (hostCondition_pathless plan routing suffix)
  have redirects : (loadBalancedStack plan routing suffix).meaning attributes
      (listenerRule httpsToo httpListener redirect [pathCondition]) =
        ruleOn attributes "HTTPListenerArn" (.redirect "HTTPS") routing.patterns :=
    listenerRule_meaning plan routing suffix attributes redirect_acts rfl
  constructor
  · rintro ⟨rule, hasRule, rfl⟩
    rcases (loadBalanced_hasRule_iff plan routing suffix).mp hasRule with
      ⟨rfl, https, rfl⟩ | ⟨rfl, https, rfl⟩ | ⟨rfl, https, rfl⟩
    · simp [rulesFor, https, plain]
    · simp [rulesFor, https, secure]
    · simp [rulesFor, https, redirects]
  · intro member
    have hasRule := fun id rule => (@loadBalanced_hasRule_iff plan routing suffix id rule).mpr
    cases https : plan.settings.httpsListener with
    | false =>
        simp only [rulesFor, https, Bool.false_eq_true, if_false, List.mem_singleton,
          Prod.mk.injEq] at member
        obtain ⟨rfl, rfl⟩ := member
        exact ⟨_, hasRule _ _ (.inl ⟨rfl, https, rfl⟩), plain⟩
    | true =>
        simp only [rulesFor, https, if_true, List.mem_cons, List.not_mem_nil, or_false,
          Prod.mk.injEq] at member
        rcases member with ⟨rfl, rfl⟩ | ⟨rfl, rfl⟩
        · exact ⟨_, hasRule _ _ (.inr (.inl ⟨rfl, https, rfl⟩)), secure⟩
        · exact ⟨_, hasRule _ _ (.inr (.inr ⟨rfl, https, rfl⟩)), redirects⟩

theorem loadBalanced_addons_iff :
    (loadBalancedStack plan routing suffix).scope.survives Role.addonsStack.id ↔
      ∃ url, plan.settings.addonsTemplateUrl = some url ∧ url ≠ "" := by
  have there := loadBalanced_resource plan routing suffix 17 rfl
  have valued : (loadBalancedStack plan routing suffix).value?
      ParameterKey.addonsTemplateUrl.text = some (plan.settings.addonsTemplateUrl.getD "") :=
    loadBalanced_value plan routing suffix .addonsTemplateUrl rfl
  have decided := loadBalanced_decides plan routing suffix 0 rfl
  rw [isGiven_holds valued] at decided
  constructor
  · intro survives
    have given := holds_of_survives there rfl survives decided
    cases url : plan.settings.addonsTemplateUrl with
    | none => simp [url] at given
    | some text => exact ⟨text, rfl, by simpa [url] using given⟩
  · rintro ⟨url, isUrl, given⟩
    rw [isUrl, Option.getD_some, decide_eq_false given] at decided
    exact loadBalanced_survives_under plan routing suffix 17 rfl rfl decided

end

section

variable {path other : String} {inner : List Char}

theorem rulePath_of_trims (trims : TrimsTo (· == '/') path.toList inner) :
    rulePath path = if inner = [] then "/" else String.ofList inner := by
  rw [rulePath, dropEnds_eq_iff.mpr trims]

theorem patterns_of_trims {routing : Routing} (trims : TrimsTo (· == '/') path.toList inner)
    (handed : routing.path = rulePath path) : routing.patterns = pathPatterns inner := by
  rw [Routing.patterns, handed, rulePath_of_trims trims, pathPatterns]
  by_cases root : inner = []
  · simp [root]
  · have notSlash : String.ofList inner ≠ "/" := by
      intro same
      have isSlash : inner = ['/'] := by simpa using congrArg String.toList same
      have notFirst := trims.first '/' (by rw [isSlash]; rfl)
      cases notFirst
    simp [root, notSlash]

end

theorem UniqueSuffix.choose_again {supplied : Option String} {fresh suffix : UniqueSuffix}
    (chosen : choose supplied fresh = .ok suffix) (other : UniqueSuffix) :
    ∃ again, choose supplied other = .ok again := by
  cases supplied with
  | none => exact ⟨other, rfl⟩
  | some text =>
      by_cases present : text ≠ ""
      · rw [choose, dif_pos present] at chosen ⊢
        exact ⟨suffix, chosen⟩
      · rw [choose, dif_neg present]
        exact ⟨other, rfl⟩

section

variable {workload : Workload} {app environment : String} {settings : Settings}
  {fresh : UniqueSuffix} {stack : Stack}

/-- A path with other slashes around it makes no other stack. -/
theorem compile_atPath {http : Http} {path other : String} (balanced : workload.kind = .loadBalanced)
    (compiled : compile workload app environment settings fresh = .ok stack)
    (exposed : workload.http = some http) (pathed : http.path = some path)
    (same : rulePath other = rulePath path) (freshToo : UniqueSuffix) :
    ∃ second, compile (workload.atPath other) app environment settings freshToo = .ok second ∧
      (second.uniqueSuffix = stack.uniqueSuffix → second = stack) := by
  obtain ⟨plan, routing, suffix, planned, routed, chosen, rfl⟩ :=
    compile_loadBalanced balanced compiled
  obtain ⟨named, task, made, rfl⟩ := Plan.of_eq_ok planned
  obtain ⟨_, _, mainPort, target, exposedSo, pathedSo, ported, targeted, accepted, rfl⟩ :=
    Routing.of_eq_ok_iff.mp routed
  cases exposed.symm.trans exposedSo
  cases pathed.symm.trans pathedSo
  obtain ⟨again, chosenToo⟩ := UniqueSuffix.choose_again chosen freshToo
  have plannedToo : Plan.of (workload.atPath other) app environment settings =
      .ok ⟨workload.atPath other, app, environment, settings, task⟩ := by
    have namedToo : ¬ (workload.atPath other).name = "" := named
    have madeToo : Task.ofWorkload (workload.atPath other) settings = .ok task := made
    rw [Plan.of, if_neg namedToo, madeToo]
    rfl
  have exposedToo : (workload.atPath other).http = some { http with path := some other } := by
    rw [Workload.atPath, exposed]
    rfl
  have routedToo :=
    (@Routing.of_eq_ok_iff ⟨workload.atPath other, app, environment, settings, task⟩ _).mpr
      ⟨_, other, mainPort, target, exposedToo, rfl, ported, targeted, accepted, rfl⟩
  have balancedToo : (workload.atPath other).kind = .loadBalanced := balanced
  refine ⟨_, compile_eq_loadBalancedStack balancedToo plannedToo routedToo chosenToo, ?_⟩
  intro sameSuffix
  cases sameSuffix
  rw [same]
  rfl

/-- The rules that survive are one that forwards requests over HTTP, or with a listener for HTTPS
one that forwards on that and one that redirects to it. All are for the paths that are left between
slashes, and for all paths where nothing is left. The stack of add-ons survives if there is an
address of its template that is not empty. The slashes around a path do not matter. -/
theorem rules_meaning (balanced : workload.kind = .loadBalanced)
    (compiled : compile workload app environment settings fresh = .ok stack) :
    ∃ http path inner, workload.http = some http ∧ http.path = some path ∧
      TrimsTo (· == '/') path.toList inner ∧
      (∀ attributes id meaning, stack.Means attributes id meaning ↔
        (id, meaning) ∈ rulesFor attributes settings.httpsListener (pathPatterns inner)) ∧
      (stack.scope.survives Role.addonsStack.id ↔
        ∃ url, settings.addonsTemplateUrl = some url ∧ url ≠ "") ∧
      ∀ other freshToo, TrimsTo (· == '/') other.toList inner →
        ∃ second, compile (workload.atPath other) app environment settings freshToo = .ok second ∧
          (second.uniqueSuffix = stack.uniqueSuffix → second = stack) := by
  obtain ⟨plan, routing, suffix, planned, routed, _, made⟩ := compile_loadBalanced balanced compiled
  obtain ⟨http, path, _, _, exposed, pathed, _, _, _, routedSo⟩ := Routing.of_eq_ok_iff.mp routed
  rw [Plan.of_workload planned] at exposed
  have trims := dropEnds_trimsTo (· == '/') path.toList
  have patterns := patterns_of_trims trims (congrArg Routing.path routedSo)
  refine ⟨http, path, _, exposed, pathed, trims, ?_, ?_, ?_⟩
  · intro attributes id meaning
    rw [made, ← patterns, ← Plan.of_settings planned]
    exact loadBalanced_means_iff plan routing suffix attributes
  · rw [made, ← Plan.of_settings planned]
    exact loadBalanced_addons_iff plan routing suffix
  · intro other freshToo trimsToo
    have same : rulePath other = rulePath path := by
      rw [rulePath_of_trims trimsToo, rulePath_of_trims trims]
    exact compile_atPath balanced compiled exposed pathed same freshToo

end

theorem rules_meaning_shop : ∃ stack,
    compile ((Workload.served "api").atPath "//shop/") "shop" "test"
        { httpsListener := true, uniqueSuffix := some "s1" }
        ⟨"s2", by decide, by decide, by decide⟩ = .ok stack ∧
      stack.Means namedAttributes Role.httpRedirectRule.id
        ⟨some "EnvControllerAction.HTTPListenerArn", [some (.redirect "HTTPS")],
          [some ["/shop", "/shop/*"]]⟩ ∧
      ¬ stack.scope.survives Role.addonsStack.id ∧
      compile ((Workload.served "api").atPath "shop") "shop" "test"
        { httpsListener := true, uniqueSuffix := some "s1" }
        ⟨"s3", by decide, by decide, by decide⟩ = .ok stack := by
  obtain ⟨stack, compiled, suffixed⟩ : ∃ stack,
      compile ((Workload.served "api").atPath "//shop/") "shop" "test"
          { httpsListener := true, uniqueSuffix := some "s1" }
          ⟨"s2", by decide, by decide, by decide⟩ = .ok stack ∧
        stack.uniqueSuffix = some ⟨"s1", by decide, by decide, by decide⟩ := ⟨_, rfl, rfl⟩
  obtain ⟨again, compiledToo, suffixedToo⟩ : ∃ stack,
      compile ((Workload.served "api").atPath "shop") "shop" "test"
          { httpsListener := true, uniqueSuffix := some "s1" }
          ⟨"s3", by decide, by decide, by decide⟩ = .ok stack ∧
        stack.uniqueSuffix = some ⟨"s1", by decide, by decide, by decide⟩ := ⟨_, rfl, rfl⟩
  obtain ⟨http, path, inner, exposed, pathed, trims, means, addons, elsewhere⟩ :=
    rules_meaning rfl compiled
  cases exposed
  cases pathed
  have isInner : inner = "shop".toList := (dropEnds_eq_iff.mpr trims).symm
  subst isInner
  have trimsToo : TrimsTo (· == '/') "shop".toList "shop".toList := dropEnds_eq_iff.mp rfl
  obtain ⟨second, compiledSo, sameStack⟩ :=
    elsewhere "shop" ⟨"s3", by decide, by decide, by decide⟩ trimsToo
  cases compiledSo.symm.trans compiledToo
  have same := sameStack (suffixedToo.trans suffixed.symm)
  refine ⟨stack, compiled, ?_, ?_, same ▸ compiledToo⟩
  · exact (means _ _ _).mpr (List.mem_of_getElem? (i := 1) rfl)
  · intro survives
    obtain ⟨url, isUrl, _⟩ := addons.mp survives
    cases isUrl

end Stackwright
