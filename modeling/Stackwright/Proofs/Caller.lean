import Stackwright.Caller

/-!
Requests for the caller, made one after another. One that tells a region takes the next reply of the
identity service, whatever became of the requests before it, and one that tells none takes no reply.
-/

namespace Stackwright

def tellsRegion : Option String → Bool
  | none => false
  | some region => region ≠ ""

def regionsTold (requests : List (Option String)) : Nat := requests.countP tellsRegion

def chinaRegions : List String := ["cn-north-1", "cn-northwest-1"]

/-- What stands between the first two colons of a resource's full name. -/
def partitionPart (fullName : String) : List Char :=
  ((fullName.toList.dropWhile (· ≠ ':')).drop 1).takeWhile (· ≠ ':')

/-- The root user of an account, in the partition that the region is in. -/
structure Caller.IsOf (caller : Caller) (identity : Identity) (region : String) : Prop where
  account : caller.account = identity.account
  userId : caller.userId = identity.userId
  rootUser : ∃ partition : String,
    caller.rootUser = "arn:" ++ partition ++ ":iam::" ++ identity.account ++ ":root"
  china : partitionPart caller.rootUser = "aws-cn".toList ↔ region ∈ chinaRegions
  commercial : partitionPart caller.rootUser = "aws".toList ↔ region ∉ chinaRegions

/-- What a request comes to if this is the next reply of the identity service. -/
structure Answers (reply : Reply) (request : Option String)
    (outcome : Except CallerError Caller) : Prop where
  noRegion : tellsRegion request = false → ∃ error, outcome = .error error ∧
    error.reason = "region is not set" ∧ error.message = "identity unavailable: region is not set"
  failed : ∀ region text, request = some region → region ≠ "" → reply = .error text →
    ∃ error, outcome = .error error ∧ error.reason = "get caller identity: " ++ text
  resolved : ∀ region identity, request = some region → region ≠ "" → reply = .ok identity →
    outcome = identity.qualify region ∧ ∃ caller, outcome = .ok caller ∧ caller.IsOf identity region

section

variable {region : String}

theorem takeWhile_name (partition : Partition) (rest : List Char) :
    (partition.name.toList ++ ':' :: rest).takeWhile (· ≠ ':') = partition.name.toList := by
  cases partition <;> simp [Partition.name]

theorem partitionPart_rootUser (partition : Partition) (account : String) :
    partitionPart ("arn:" ++ partition.name ++ ":iam::" ++ account ++ ":root") =
      partition.name.toList := by
  have characters : ("arn:" ++ partition.name ++ ":iam::" ++ account ++ ":root").toList =
      'a' :: 'r' :: 'n' :: ':' :: (partition.name.toList ++
        ':' :: ("iam::" ++ account ++ ":root").toList) := by
    simp
  rw [partitionPart, characters]
  exact takeWhile_name partition _

theorem ofRegion_eq_china_iff : Partition.ofRegion region = .china ↔ region ∈ chinaRegions := by
  rw [Partition.ofRegion]
  by_cases isChina : region = "cn-north-1" ∨ region = "cn-northwest-1"
  · simp [isChina, chinaRegions]
  · simp [isChina, chinaRegions]

theorem ofRegion_eq_commercial_iff :
    Partition.ofRegion region = .commercial ↔ region ∉ chinaRegions := by
  rw [← ofRegion_eq_china_iff]
  cases Partition.ofRegion region <;> simp

theorem name_eq_iff {partition : Partition} (other : Partition) :
    partition.name.toList = other.name.toList ↔ partition = other := by
  cases partition <;> cases other <;> decide

theorem qualify_isOf (identity : Identity) (told : region ≠ "") :
    ∃ caller, identity.qualify region = .ok caller ∧ caller.IsOf identity region := by
  refine ⟨_, if_neg told, rfl, rfl, ⟨_, rfl⟩, ?_, ?_⟩
  · rw [partitionPart_rootUser, ← ofRegion_eq_china_iff]
    exact name_eq_iff .china
  · rw [partitionPart_rootUser, ← ofRegion_eq_commercial_iff]
    exact name_eq_iff .commercial

end

namespace IdentityService

variable {service : IdentityService} {request : Option String}

def after (service : IdentityService) (requests : List (Option String)) : IdentityService :=
  { service with calls := service.calls + regionsTold requests }

theorem after_after (service : IdentityService) (earlier later : List (Option String)) :
    (service.after earlier).after later = service.after (earlier ++ later) := by
  simp only [after, regionsTold, List.countP_append, Nat.add_assoc]

theorem resolve_after (service : IdentityService) (request : Option String) :
    (service.resolve request).2 = service.after [request] := by
  cases request with
  | none => rfl
  | some region =>
      by_cases empty : region = ""
      · simp [resolve, after, regionsTold, tellsRegion, empty]
      · have told : tellsRegion (some region) = true := by simp [tellsRegion, empty]
        simp only [resolve, empty, if_false, call, after, regionsTold, List.countP_singleton, told,
          if_true]
        cases service.replies service.calls <;> rfl

theorem resolve_congr {other : IdentityService}
    (same : service.replies service.calls = other.replies other.calls) :
    (service.resolve request).1 = (other.resolve request).1 := by
  cases request with
  | none => rfl
  | some region =>
      by_cases empty : region = ""
      · simp [resolve, empty]
      · simp only [resolve, empty, if_false, call, same]
        cases other.replies other.calls <;> rfl

theorem resolve_answers (service : IdentityService) (request : Option String) :
    Answers (service.replies service.calls) request (service.resolve request).1 := by
  constructor
  case noRegion =>
    intro untold
    cases request with
    | none => exact ⟨.noRegion, rfl, rfl, rfl⟩
    | some region =>
        have empty : region = "" := by simpa [tellsRegion] using untold
        exact ⟨.noRegion, by simp [resolve, empty], rfl, rfl⟩
  case failed =>
    intro region text isRegion told fails
    refine ⟨.serviceFailed text, ?_, rfl⟩
    simp [resolve, isRegion, told, call, fails]
  case resolved =>
    intro region identity isRegion told replies
    have qualified : (service.resolve request).1 = identity.qualify region := by
      simp [resolve, isRegion, told, call, replies]
    rw [qualified]
    exact ⟨rfl, qualify_isOf identity told⟩

theorem resolveAll_cons (service : IdentityService) (request : Option String)
    (later : List (Option String)) :
    service.resolveAll (request :: later) =
      ((service.resolve request).1, (service.after [request]).calls) ::
        (service.after [request]).resolveAll later := by
  rw [resolveAll, ← resolve_after]

theorem length_resolveAll (service : IdentityService) (requests : List (Option String)) :
    (service.resolveAll requests).length = requests.length := by
  induction requests generalizing service with
  | nil => rfl
  | cons request later ih => rw [resolveAll_cons, List.length_cons, ih, List.length_cons]

theorem resolveAll_append (service : IdentityService) (earlier later : List (Option String)) :
    service.resolveAll (earlier ++ later) =
      service.resolveAll earlier ++ (service.after earlier).resolveAll later := by
  induction earlier generalizing service with
  | nil => rfl
  | cons request rest ih =>
      rw [List.cons_append, resolveAll_cons, resolveAll_cons, List.cons_append, ih, after_after,
        List.singleton_append]

theorem resolveAll_at (service : IdentityService) (earlier later : List (Option String))
    (request : Option String) :
    (service.resolveAll (earlier ++ request :: later))[earlier.length]? =
      some (((service.after earlier).resolve request).1,
        (service.after (earlier ++ [request])).calls) := by
  have before := length_resolveAll service earlier
  rw [resolveAll_append, List.getElem?_append_right (Nat.le_of_eq before), before, Nat.sub_self,
    resolveAll_cons, List.getElem?_cons_zero, after_after]

end IdentityService

open IdentityService

/-- Of requests made one after another each gets one answer. The service has been called as often by
then as a region was told, and the answer comes from the reply that is next, or from none if no
region is told. Nothing but that reply matters: other requests and other replies before it, be they
failures or not, lead to the same answer. -/
theorem requests_answered (replies : Nat → Reply) (earlier later : List (Option String))
    (request : Option String) :
    ((start replies).resolveAll earlier).length = earlier.length ∧
    ∃ outcome,
      ((start replies).resolveAll (earlier ++ request :: later))[earlier.length]? =
        some (outcome, regionsTold (earlier ++ [request])) ∧
      regionsTold (earlier ++ [request]) =
        regionsTold earlier + (if tellsRegion request then 1 else 0) ∧
      Answers (replies (regionsTold earlier)) request outcome ∧
      ∀ others before following, others (regionsTold before) = replies (regionsTold earlier) →
        (((start others).resolveAll (before ++ request :: following))[before.length]?).map Prod.fst =
          some outcome := by
  have nextIs : ∀ replies earlier, ((start replies).after earlier).replies
      ((start replies).after earlier).calls = replies (regionsTold earlier) := by
    intro replies earlier
    simp only [start, after, Nat.zero_add]
  have answers := resolve_answers ((start replies).after earlier) request
  rw [nextIs] at answers
  refine ⟨length_resolveAll _ _, _, ?_, ?_, answers, ?_⟩
  · rw [resolveAll_at]
    simp only [start, after, Nat.zero_add]
  · simp [regionsTold, List.countP_append, List.countP_singleton]
  · intro others before following same
    have alike : ((start others).after before).replies ((start others).after before).calls =
        ((start replies).after earlier).replies ((start replies).after earlier).calls := by
      rw [nextIs, nextIs, same]
    rw [resolveAll_at, Option.map_some, resolve_congr alike]

def Identity.sample : Identity := ⟨"123456789012", "AIDAEXAMPLE"⟩

def repliesFailingOnce : Nat → Reply
  | 0 => .error "ExpiredToken"
  | _ + 1 => .ok .sample

/-- A request without a region between a failure and a request in China: two calls, and the answer of
a service that never fails. -/
theorem requests_answered_failingOnce :
    (∃ error, ((start repliesFailingOnce).resolveAll [some "us-east-1"])[0]? =
        some (.error error, 1) ∧ error.reason = "get caller identity: ExpiredToken") ∧
    (∃ error, ((start repliesFailingOnce).resolveAll [some "us-east-1", some ""])[1]? =
        some (.error error, 1) ∧ error.reason = "region is not set") ∧
    ∃ caller, ((start repliesFailingOnce).resolveAll
        [some "us-east-1", some "", some "cn-north-1"])[2]? = some (.ok caller, 2) ∧
      partitionPart caller.rootUser = "aws-cn".toList ∧
      (((start fun _ => .ok .sample).resolveAll [some "cn-north-1"])[0]?).map Prod.fst =
        some (.ok caller) := by
  obtain ⟨-, _, firstAt, -, first, -⟩ :=
    requests_answered repliesFailingOnce [] [] (some "us-east-1")
  obtain ⟨-, _, secondAt, -, second, -⟩ :=
    requests_answered repliesFailingOnce [some "us-east-1"] [] (some "")
  obtain ⟨-, _, thirdAt, -, third, alone⟩ :=
    requests_answered repliesFailingOnce [some "us-east-1", some ""] [] (some "cn-north-1")
  obtain ⟨failure, rfl, failing⟩ := first.failed "us-east-1" "ExpiredToken" rfl (by decide) rfl
  obtain ⟨refusal, rfl, refusing, -⟩ := second.noRegion (by decide)
  obtain ⟨-, caller, rfl, isOf⟩ := third.resolved "cn-north-1" .sample rfl (by decide) rfl
  refine ⟨⟨failure, firstAt, failing⟩, ⟨refusal, secondAt, refusing⟩, caller, thirdAt,
    isOf.china.mpr (by decide), ?_⟩
  exact alone (fun _ => .ok .sample) [] [] rfl

end Stackwright
