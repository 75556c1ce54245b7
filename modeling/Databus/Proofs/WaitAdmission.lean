import Mathlib.Data.List.Basic
import Databus.Proofs.WaitExclusion

/-! Which waits are let in. A wait is refused for the first slot that does not resolve, or else for a resource that it
lists twice or that a running wait holds; its conditions all differ, so attaching them cannot fail. -/
namespace Databus.Middleware

variable {K : Type}

/-! ### Slots that do not resolve -/

section Slots

variable {kind : Kind} {α : Type}

inductive Arena.Rejects (a : Arena kind α) (h : Handle kind) : Failure → Prop
  | foreign (other : h.implementation ≠ implementationIdentifier) :
    Rejects a h (.implementationMismatch implementationIdentifier h.implementation)
  | astray (own : h.implementation = implementationIdentifier) (away : h.context ≠ a.context) :
    Rejects a h (.invalidArgument s!"{h.text} belongs to another context")
  | stale (own : h.implementation = implementationIdentifier) (here : h.context = a.context)
    (none : a.find? h = none) : Rejects a h (.invalidArgument s!"{h.text} is not a live {kind.name}")

def Arena.Resolves (a : Arena kind α) (slots : List (Option (Handle kind))) : Prop :=
  ∀ h, some h ∈ slots → a.find? h ≠ none

def Arena.Stops (a : Arena kind α) (slots : List (Option (Handle kind))) (f : Failure) : Prop :=
  ∃ before h after, slots = before ++ some h :: after ∧ a.Resolves before ∧ a.Rejects h f

namespace Arena

variable {a : Arena kind α} {h : Handle kind} {f : Failure} {slot : Option (Handle kind)}
  {slots rest : List (Option (Handle kind))}

theorem Rejects.missing (rejects : a.Rejects h f) : a.find? h = none := by
  cases rejects with
  | foreign other => exact if_neg fun both => other both.1
  | astray own away => exact if_neg fun both => away both.2
  | stale own here none => exact none

theorem getRejects : a.get h = .error f ↔ a.Rejects h f := by
  constructor
  · intro failed
    unfold get Handle.check checkImplementation at failed
    by_cases own : h.implementation = implementationIdentifier
    · rw [if_pos own] at failed
      cases found : a.find? h with
      | some x =>
        rw [found] at failed
        cases failed
      | none =>
        rw [found] at failed
        unfold stale at failed
        by_cases here : h.context = a.context
        · rw [if_neg (not_not_intro here)] at failed
          cases failed
          exact .stale own here found
        · rw [if_pos here] at failed
          cases failed
          exact .astray own here
    · rw [if_neg own] at failed
      cases failed
      exact .foreign own
  · intro rejects
    have none := rejects.missing
    unfold get Handle.check checkImplementation
    cases rejects with
    | foreign other => rw [if_neg other]
    | astray own away => simp only [own, if_true, none, stale, if_pos away]
    | stale own here => simp only [own, if_true, none, Arena.stale, here, ne_eq, not_true_eq_false, if_false]

theorem stopsCons : a.Stops (slot :: rest) f ↔
    (∃ h, slot = some h ∧ a.Rejects h f) ∨ a.Resolves [slot] ∧ a.Stops rest f := by
  constructor
  · rintro ⟨before, h, after, split, fine, rejects⟩
    cases before with
    | nil =>
      obtain ⟨rfl, rfl⟩ := List.cons.inj split
      exact .inl ⟨h, rfl, rejects⟩
    | cons first before =>
      obtain ⟨rfl, rfl⟩ := List.cons.inj split
      refine .inr ⟨fun k mem => fine k ?_, before, h, after, rfl, fun k mem => fine k (.tail _ mem), rejects⟩
      exact List.mem_singleton.1 mem ▸ .head _
  · rintro (⟨h, rfl, rejects⟩ | ⟨fine, before, h, after, rfl, fine', rejects⟩)
    · exact ⟨[], h, rest, rfl, nofun, rejects⟩
    · refine ⟨slot :: before, h, after, rfl, fun k mem => ?_, rejects⟩
      rcases List.mem_cons.1 mem with rfl | mem
      · exact fine k (.head _)
      · exact fine' k mem

theorem Stops.noTransport (stops : a.Stops slots f) (text : String) : f ≠ .transportFailure text := by
  obtain ⟨_, _, _, _, _, rejects⟩ := stops
  cases rejects <;> exact nofun

theorem Stops.missing (stops : a.Stops slots f) : ¬ a.Resolves slots := by
  obtain ⟨before, h, after, rfl, _, rejects⟩ := stops
  exact fun fine => fine h (by simp) rejects.missing

end Arena

namespace Site

variable {arena : Arena kind α} {handles : List (Option (Handle kind))} {f : Failure}

theorem mapFails {β γ : Type} {e : Except Failure β} {g : β → γ} : e.map g = .error f ↔ e = .error f := by
  cases e <;> simp [Except.map]

theorem resolveStops (condition : α → ConditionId) :
    resolve arena condition handles = .error f ↔ arena.Stops handles f := by
  induction handles with
  | nil => exact ⟨nofun, fun ⟨before, h, after, split, _⟩ => by cases before <;> cases split⟩
  | cons slot rest ih =>
    rw [Arena.stopsCons, ← ih]
    cases slot with
    | none => simp [resolve, mapFails, Arena.Resolves]
    | some h =>
      rw [resolve]
      cases got : arena.get h with
      | error f' =>
        have none := (Arena.getRejects.1 got).missing
        simp [Arena.Resolves, ← Arena.getRejects, got, none]
      | ok x =>
        have found := Arena.getExact.1 got
        simp [Arena.Resolves, ← Arena.getRejects, got, found, mapFails]

theorem Filled.resolves {condition : α → ConditionId} {slots : Slots kind}
    (filled : Filled arena condition handles slots) : arena.Resolves handles := by
  obtain ⟨rfl, held⟩ := filled
  intro h mem
  obtain ⟨_ | ⟨h', k⟩, there, same⟩ := List.mem_map.1 mem
  · cases same
  · cases same
    obtain ⟨x, found, _⟩ := held h' k there
    exact Option.ne_none_iff_exists'.2 ⟨x, found⟩

theorem resolveResolves (condition : α → ConditionId) :
    (∃ slots, resolve arena condition handles = .ok slots) ↔ arena.Resolves handles := by
  refine ⟨fun ⟨_, resolved⟩ => (resolveFilled resolved).resolves, fun fine => ?_⟩
  cases resolved : resolve arena condition handles with
  | ok slots => exact ⟨slots, rfl⟩
  | error f => exact absurd fine ((resolveStops condition).1 resolved).missing

theorem stopsExact : (∃ f, arena.Stops handles f) ↔ ¬ arena.Resolves handles := by
  refine ⟨fun ⟨_, stops⟩ => stops.missing, fun missing => ?_⟩
  cases resolved : resolve arena (fun _ => 0) handles with
  | ok slots => exact absurd (resolveFilled resolved).resolves missing
  | error f => exact ⟨f, (resolveStops _).1 resolved⟩

end Site

end Slots

/-! ### Resources that clash -/

namespace Resource

def waitable : Resource → Waitable
  | .subscription _ => .subscription
  | .guard _ => .guardCondition

def listed (subscriptions : List (Option (Handle .subscription))) (guards : List (Option (Handle .guardCondition))) :
    List Resource :=
  subscriptions.filterMap (·.map .subscription) ++ guards.filterMap (·.map .guard)

def Clashes (held : Resource → Prop) (resources : List Resource) (i : Resource) : Prop :=
  ∃ before after, resources = before ++ i :: after ∧ before.Nodup ∧ (∀ j ∈ before, ¬ held j) ∧ (i ∈ before ∨ held i)

variable {held held' : Resource → Prop} {resources rest : List Resource} {i j : Resource}

theorem clashesCons : Clashes held (j :: rest) i ↔
    i = j ∧ held j ∨ ¬ held j ∧ Clashes (fun x => x = j ∨ held x) rest i := by
  constructor
  · rintro ⟨before, after, split, nodup, free, clash⟩
    cases before with
    | nil =>
      obtain ⟨rfl, rfl⟩ := List.cons.inj split
      exact .inl ⟨rfl, clash.resolve_left List.not_mem_nil⟩
    | cons first before =>
      obtain ⟨rfl, rfl⟩ := List.cons.inj split
      obtain ⟨new, nodup⟩ := List.nodup_cons.1 nodup
      refine .inr ⟨free j (.head _), before, after, rfl, nodup, fun k mem either => ?_, ?_⟩
      · rcases either with rfl | taken
        · exact new mem
        · exact free k (.tail _ mem) taken
      · rcases clash with mem | taken
        · exact (List.mem_cons.1 mem).symm.imp_right .inl
        · exact .inr (.inr taken)
  · rintro (⟨rfl, taken⟩ | ⟨free, before, after, rfl, nodup, free', clash⟩)
    · exact ⟨[], rest, rfl, .nil, nofun, .inr taken⟩
    · refine ⟨j :: before, after, rfl, List.nodup_cons.2 ⟨fun mem => free' j mem (.inl rfl), nodup⟩, fun k mem => ?_,
        ?_⟩
      · rcases List.mem_cons.1 mem with rfl | mem
        · exact free
        · exact fun taken => free' k mem (.inr taken)
      · rcases clash with mem | rfl | taken
        · exact .inl (.tail _ mem)
        · exact .inl (.head _)
        · exact .inr taken

theorem clashesCongr (same : ∀ x ∈ resources, (held x ↔ held' x)) :
    Clashes held resources i ↔ Clashes held' resources i := by
  have one {held held' : Resource → Prop} (same : ∀ x ∈ resources, (held x ↔ held' x)) :
      Clashes held resources i → Clashes held' resources i := by
    rintro ⟨before, after, rfl, nodup, free, clash⟩
    refine ⟨before, after, rfl, nodup, fun j mem taken => free j mem ((same j (by simp [mem])).2 taken), ?_⟩
    exact clash.imp_right (same i (by simp)).1
  exact ⟨one same, one fun x mem => (same x mem).symm⟩

theorem clashesExact :
    (∃ i, Clashes held resources i) ↔ ¬ (resources.Nodup ∧ ∀ j ∈ resources, ¬ held j) := by
  constructor
  · rintro ⟨i, before, after, rfl, _, _, clash⟩ ⟨nodup, free⟩
    rcases clash with mem | taken
    · exact (List.nodup_append.1 nodup).2.2 i mem i (.head _) rfl
    · exact free i (by simp) taken
  · intro taken
    induction resources generalizing held with
    | nil => exact absurd ⟨.nil, nofun⟩ taken
    | cons j rest ih =>
      by_cases here : held j
      · exact ⟨j, clashesCons.2 (.inl ⟨rfl, here⟩)⟩
      · obtain ⟨i, clashes⟩ := @ih (fun x => x = j ∨ held x) fun ⟨nodup, free⟩ => by
          refine taken ⟨List.nodup_cons.2 ⟨fun mem => free j mem (.inl rfl), nodup⟩, fun x mem => ?_⟩
          rcases List.mem_cons.1 mem with rfl | mem
          · exact here
          · exact fun taken => free x mem (.inr taken)
        exact ⟨i, clashesCons.2 (.inr ⟨here, clashes⟩)⟩

end Resource

open Resource (Clashes clashesCons clashesCongr listed)

theorem Site.claimClashes {observed : List ConditionId} {resources : List Resource} {condition : Resource → ConditionId}
    (apart : ∀ i ∈ resources, ∀ j ∈ resources, condition i = condition j → i = j) {f : Failure} :
    Site.claim observed (resources.map fun i => (i.waitable, condition i)) = .error f ↔
      ∃ i, Clashes (condition · ∈ observed) resources i ∧ f = inUse i.waitable := by
  induction resources generalizing observed with
  | nil =>
    constructor
    · intro refused
      cases refused
    · rintro ⟨_, ⟨before, after, split, _⟩, _⟩
      cases before <;> cases split
  | cons first rest ih =>
    rw [List.map_cons, Site.claim]
    simp only [clashesCons]
    by_cases taken : condition first ∈ observed
    · rw [if_pos taken, Except.error.injEq]
      constructor
      · intro same
        exact ⟨first, .inl ⟨rfl, taken⟩, same.symm⟩
      · rintro ⟨i, ⟨rfl, _⟩ | ⟨free, _⟩, same⟩
        · exact same.symm
        · exact absurd taken free
    · rw [if_neg taken, ih fun i mem j mem' => apart i (.tail _ mem) j (.tail _ mem')]
      have same (i : Resource) : Clashes (condition · ∈ condition first :: observed) rest i ↔
          Clashes (fun x => x = first ∨ condition x ∈ observed) rest i := by
        refine clashesCongr fun x mem => List.mem_cons.trans (or_congr_left ⟨?_, congrArg condition⟩)
        exact apart x (.tail _ mem) first (.head _)
      simp only [same, taken, and_false, false_or, not_false_eq_true, true_and]

/-! ### What a wait is refused for -/

namespace Context

inductive Misses (c : Context K) (subscriptions : List (Option (Handle .subscription)))
    (guards : List (Option (Handle .guardCondition))) (f : Failure) : Prop
  | subscription (stops : c.subscriptions.Stops subscriptions f)
  | guard (fine : c.subscriptions.Resolves subscriptions) (stops : c.guards.Stops guards f)

theorem missesResolve {c : Context K} {subscriptions : List (Option (Handle .subscription))}
    {guards : List (Option (Handle .guardCondition))} {f : Failure} : c.Misses subscriptions guards f ↔
      Site.resolve c.subscriptions (·.condition) subscriptions = .error f ∨
        (∃ slots, Site.resolve c.subscriptions (·.condition) subscriptions = .ok slots) ∧
          Site.resolve c.guards (·.condition) guards = .error f := by
  rw [Site.resolveStops, Site.resolveResolves, Site.resolveStops]
  constructor
  · rintro (stops | ⟨fine, stops⟩)
    · exact .inl stops
    · exact .inr ⟨fine, stops⟩
  · rintro (stops | ⟨fine, stops⟩)
    · exact .subscription stops
    · exact .guard fine stops

theorem Misses.noTransport {c : Context K} {subscriptions : List (Option (Handle .subscription))}
    {guards : List (Option (Handle .guardCondition))} {f : Failure} (misses : c.Misses subscriptions guards f)
    (text : String) : f ≠ .transportFailure text := by
  rcases misses with stops | ⟨_, stops⟩ <;> exact stops.noTransport text

end Context

namespace WaitingSystem

def Holds (l : WaitingSystem K) (ctx : ContextId) (i : Resource) : Prop :=
  ∃ (n : Nat) (v : WaitCall) (k : ConditionId), l.waits[n]? = some v ∧ ¬ v.IsGone ∧ k ∈ v.held ∧
    l.system.condition? ctx i = some k

inductive Refuses (l : WaitingSystem K) (ctx : ContextId) (c : Context K)
    (subscriptions : List (Option (Handle .subscription)))
    (guards : List (Option (Handle .guardCondition))) : Failure → Prop
  | missing {f : Failure} (misses : c.Misses subscriptions guards f) : Refuses l ctx c subscriptions guards f
  | inUse {i : Resource} (fine : c.subscriptions.Resolves subscriptions) (fine' : c.guards.Resolves guards)
    (clashes : Clashes (l.Holds ctx) (listed subscriptions guards) i) :
    Refuses l ctx c subscriptions guards (inUse i.waitable)

variable {l : WaitingSystem K} {s : System K} {ctx : ContextId}

theorem refusesEither {c : Context K} {subscriptions : List (Option (Handle .subscription))}
    {guards : List (Option (Handle .guardCondition))} {f : Failure} : l.Refuses ctx c subscriptions guards f ↔
      c.Misses subscriptions guards f ∨ c.subscriptions.Resolves subscriptions ∧ c.guards.Resolves guards ∧
        ∃ i, Clashes (l.Holds ctx) (listed subscriptions guards) i ∧ f = inUse i.waitable := by
  constructor
  · rintro (misses | ⟨fine, fine', clashes⟩)
    · exact .inl misses
    · exact .inr ⟨fine, fine', _, clashes, rfl⟩
  · rintro (misses | ⟨fine, fine', i, clashes, rfl⟩)
    · exact .missing misses
    · exact .inUse fine fine' clashes

theorem refusesExact {c : Context K} {subscriptions : List (Option (Handle .subscription))}
    {guards : List (Option (Handle .guardCondition))} : (∃ f, l.Refuses ctx c subscriptions guards f) ↔
      ¬ (c.subscriptions.Resolves subscriptions ∧ c.guards.Resolves guards ∧ (listed subscriptions guards).Nodup ∧
        ∀ i ∈ listed subscriptions guards, ¬ l.Holds ctx i) := by
  constructor
  · rintro ⟨f, (stops | ⟨_, stops⟩) | ⟨_, _, clashes⟩⟩ ⟨fine, fine', free⟩
    · exact stops.missing fine
    · exact stops.missing fine'
    · exact Resource.clashesExact.1 ⟨_, clashes⟩ free
  · intro taken
    by_cases fine : c.subscriptions.Resolves subscriptions
    · by_cases fine' : c.guards.Resolves guards
      · obtain ⟨i, clashes⟩ := Resource.clashesExact.2 fun free => taken ⟨fine, fine', free⟩
        exact ⟨_, .inUse fine fine' clashes⟩
      · obtain ⟨f, stops⟩ := Site.stopsExact.2 fine'
        exact ⟨f, .missing (.guard fine stops)⟩
    · obtain ⟨f, stops⟩ := Site.stopsExact.2 fine
      exact ⟨f, .missing (.subscription stops)⟩

theorem Refuses.noTransport {c : Context K} {subscriptions : List (Option (Handle .subscription))}
    {guards : List (Option (Handle .guardCondition))} {f : Failure} (refuses : l.Refuses ctx c subscriptions guards f)
    (text : String) : f ≠ .transportFailure text := by
  rcases refuses with misses | _
  · exact misses.noTransport text
  · exact nofun

theorem pairsListed {kind : Kind} {handles : List (Option (Handle kind))} {slots : Slots kind}
    (same : slots.map (Option.map Prod.fst) = handles) {name : Handle kind → Resource} {w : Waitable}
    (own : ∀ h, (name h).waitable = w) (live : ∀ h k, some (h, k) ∈ slots → s.condition? ctx (name h) = some k) :
    slots.conditions.map (w, ·) =
      (handles.filterMap (·.map name)).map fun i => (i.waitable, (s.condition? ctx i).getD 0) := by
  rw [← same, List.filterMap_map, List.map_filterMap, Slots.conditions, List.map_filterMap]
  refine List.filterMap_congr fun slot mem => ?_
  cases slot with
  | none => rfl
  | some pair => simp [own, live pair.1 pair.2 mem]

theorem claimsListed {c : Context K} {v : WaitCall} {subscriptions : List (Option (Handle .subscription))}
    {guards : List (Option (Handle .guardCondition))} (known : s.contexts.get? v.ctx = some c)
    (filled : Site.Filled c.subscriptions (·.condition) subscriptions v.subscriptions)
    (filled' : Site.Filled c.guards (·.condition) guards v.guards) :
    v.claims = (listed subscriptions guards).map fun i => (i.waitable, (s.condition? v.ctx i).getD 0) := by
  rw [listed, List.map_append, WaitCall.claims]
  refine congrArg₂ _ (pairsListed filled.listed (fun _ => rfl) fun h k mem => ?_)
    (pairsListed filled'.listed (fun _ => rfl) fun h k mem => ?_)
  · exact listsLive (i := .subscription h) known filled filled' mem
  · exact listsLive (i := .guard h) known filled filled' mem

theorem listedLive {c : Context K} {subscriptions : List (Option (Handle .subscription))}
    {guards : List (Option (Handle .guardCondition))} (known : s.contexts.get? ctx = some c)
    (fine : c.subscriptions.Resolves subscriptions) (fine' : c.guards.Resolves guards) {i : Resource}
    (mem : i ∈ listed subscriptions guards) : ∃ k, s.condition? ctx i = some k := by
  simp only [listed, List.mem_append, List.mem_filterMap, Option.map_eq_some_iff] at mem
  rcases mem with ⟨_, mem, h, rfl, rfl⟩ | ⟨_, mem, h, rfl, rfl⟩
  · obtain ⟨r, found⟩ := Option.ne_none_iff_exists'.1 (fine h mem)
    exact ⟨_, System.conditionSubscription.2 ⟨c, r, known, found, rfl⟩⟩
  · obtain ⟨g, found⟩ := Option.ne_none_iff_exists'.1 (fine' h mem)
    exact ⟨_, System.conditionGuard.2 ⟨g, by rw [System.guard?, known]; exact found, rfl⟩⟩

namespace Orderly

theorem runs (orderly : l.Orderly) {v : WaitCall} (mem : v ∈ l.waits) {k : ConditionId} (had : k ∈ v.held) :
    ¬ v.IsGone := by
  rintro ⟨answer, stage⟩
  have fit := orderly.fit v mem
  rw [WaitCall.Fit, stage] at fit
  rw [fit] at had
  cases had

theorem flagged (orderly : l.Orderly) {k : ConditionId} :
    k ∈ l.system.observed ↔ ∃ (n : Nat) (v : WaitCall), l.waits[n]? = some v ∧ ¬ v.IsGone ∧ k ∈ v.held := by
  rw [orderly.exact.flags]
  constructor
  · rintro ⟨n, mem⟩
    unfold held at mem
    split at mem
    · rename_i v there
      exact ⟨n, v, there, orderly.runs (List.mem_of_getElem? there) mem, mem⟩
    · cases mem
  · rintro ⟨n, v, there, _, had⟩
    exact ⟨n, heldThere there ▸ had⟩

theorem holdsFlagged (orderly : l.Orderly) {i : Resource} {k : ConditionId}
    (live : l.system.condition? ctx i = some k) : l.Holds ctx i ↔ k ∈ l.system.observed := by
  rw [orderly.flagged]
  constructor
  · rintro ⟨n, v, k', there, running, had, live'⟩
    cases live.symm.trans live'
    exact ⟨n, v, there, running, had⟩
  · rintro ⟨n, v, there, running, had⟩
    exact ⟨n, v, k, there, running, had, live⟩

end Orderly

theorem Orderly.inOrder (orderly : l.Orderly) {v : WaitCall} (mem : v ∈ l.waits) {rest : List (Waitable × ConditionId)}
    (stage : v.stage = .claiming rest) : v.held ++ rest.map Prod.snd = v.conditions := by
  simpa only [WaitCall.Fit, stage] using orderly.fit v mem

theorem Orderly.claimsApart (orderly : l.Orderly) {n : Nat} {v : WaitCall} (there : l.waits[n]? = some v)
    (stage : v.stage = .claiming []) : (v.claims.map Prod.snd).Nodup := by
  have all := orderly.inOrder (List.mem_of_getElem? there) stage
  rw [List.map_nil, List.append_nil] at all
  rw [WaitCall.claimsConditions, ← all, ← heldThere there]
  exact orderly.exact.once n

theorem receiveFails (clock : Clock) (s : System K) (v : WaitCall) {f : Failure} :
    (receive clock s v).2 = .error f ↔ Site.claim s.observed v.claims = .error f := by
  unfold receive
  cases claimed : Site.claim s.observed v.claims with
  | error f => simp only [Except.error.injEq]
  | ok observed =>
    obtain ⟨b, attached, _⟩ := Site.attachAllNew s.bus (Site.claimExact claimed).2.1
    rw [attached]
    exact ⟨nofun, nofun⟩

theorem claimRefused (orderly : l.Orderly) {c : Context K} {v : WaitCall} {f : Failure}
    {subscriptions : List (Option (Handle .subscription))} {guards : List (Option (Handle .guardCondition))}
    (known : l.system.contexts.get? v.ctx = some c)
    (filled : Site.Filled c.subscriptions (·.condition) subscriptions v.subscriptions)
    (filled' : Site.Filled c.guards (·.condition) guards v.guards) :
    Site.claim l.system.observed v.claims = .error f ↔
      ∃ i, Clashes (l.Holds v.ctx) (listed subscriptions guards) i ∧ f = inUse i.waitable := by
  have live {i : Resource} (mem : i ∈ listed subscriptions guards) :
      l.system.condition? v.ctx i = some ((l.system.condition? v.ctx i).getD 0) := by
    obtain ⟨k, found⟩ := listedLive known filled.resolves filled'.resolves mem
    rw [found, Option.getD_some]
  rw [claimsListed known filled filled', Site.claimClashes fun i mem j mem' same => ?_]
  · have same (i : Resource) := clashesCongr (i := i) fun x mem => (orderly.holdsFlagged (live mem)).symm
    simp only [same]
  · exact (orderly.distinct _ i _ j _ (live mem) (same ▸ live mem')).2

theorem beginRefused (orderly : l.Orderly) {c : Context K} (known : l.system.contexts.get? ctx = some c) (clock : Clock)
    (timeout : Timeout) (subscriptions : List (Option (Handle .subscription)))
    (guards : List (Option (Handle .guardCondition))) (f : Failure) :
    (l.system.beginWait ctx clock timeout subscriptions guards).2 = .error f ↔
      l.Refuses ctx c subscriptions guards f := by
  rw [refusesEither, Context.missesResolve, ← Site.resolveResolves (·.condition), ← Site.resolveResolves (·.condition)]
  cases resolved : Site.resolve c.subscriptions (·.condition) subscriptions with
  | error g => simp [System.beginWait, System.perform, known, Site.beginWait, resolved, System.reportAnswer]
  | ok slots =>
    cases resolved' : Site.resolve c.guards (·.condition) guards with
    | error g =>
      simp [System.beginWait, System.perform, known, Site.beginWait, resolved, resolved', System.reportAnswer]
    | ok slots' =>
      let v : WaitCall := { ctx, timeout, pollInterval := c.settings.pollInterval, subscriptions := slots,
                            guards := slots', stage := .claiming [] }
      rw [beginWaitReceives (v := v) clock known rfl resolved resolved', System.reportAnswer, receiveFails,
        claimRefused orderly known (Site.resolveFilled resolved) (Site.resolveFilled resolved')]
      simp [v]

end WaitingSystem

/-! ### Waits among others -/

namespace WaitCall

variable {s : System K} {v : WaitCall} {f : Failure}

def Fails (v : WaitCall) (f : Failure) : Prop := v.stage = .leaving (.error f) ∨ v.stage = .gone (.error f)

theorem claimFails : (v.claim s).2.Fails f ↔
    v.Fails f ∨ ∃ w k rest, v.stage = .claiming ((w, k) :: rest) ∧ k ∈ s.observed ∧ f = inUse w := by
  unfold claim
  split
  · rename_i w k rest stage
    split
    · rename_i taken
      simp [Fails, stage, taken, eq_comm]
    · rename_i free
      simp [Fails, stage, free]
  · rename_i other
    refine ⟨.inl, fun either => either.resolve_right ?_⟩
    rintro ⟨w, k, rest, stage, _⟩
    exact other w k rest stage

theorem blockAttaches (stage : v.stage = .claiming []) (nodup : (v.claims.map Prod.snd).Nodup) (clock : Clock) :
    ∃ b, v.block clock s = ({ s with bus := b }, { v with stage := .blocked (v.ticket clock s) }) := by
  obtain ⟨b, attached, _⟩ := Site.attachAllNew s.bus nodup
  exact ⟨b, by simp only [block, stage, attached]⟩

theorem blockFails (nodup : v.stage = .claiming [] → (v.claims.map Prod.snd).Nodup) (clock : Clock) :
    (v.block clock s).2.Fails f ↔ v.Fails f := by
  by_cases stage : v.stage = .claiming []
  · obtain ⟨b, blocked⟩ := blockAttaches (s := s) stage (nodup stage) clock
    simp [blocked, Fails, stage]
  · rcases blockOpens clock s v with none | ⟨stage', _⟩
    · rw [none]
    · exact absurd stage' stage

theorem turnFails (now : Nat) : (v.turn now s).2.Fails f ↔ v.Fails f := by
  unfold turn
  split
  · rename_i stage
    split
    · simp [Fails, stage]
    · rfl
  · rfl

theorem collectFails : (v.collect s).2.Fails f ↔ v.Fails f := by
  unfold collect
  split
  · rename_i stage
    simp [Fails, stage]
  · rfl

theorem releaseFails : (v.release s).2.Fails f ↔ v.Fails f := by
  unfold release
  split
  · simp only [Fails]
  · rfl

theorem leaveFails : (v.leave s).2.Fails f ↔ v.Fails f := by
  unfold leave
  split
  · rename_i stage _
    simp [Fails, stage]
  · rfl

end WaitCall

namespace WaitingSystem

variable [Catalog K] [DecidableEq K] {l : WaitingSystem K} {n : Nat} {f : Failure}

/-- The event is what the wait `n` fails for: as it enters, or as it claims what it has claimed for an earlier slot or
what another running wait holds. -/
inductive Rejects (l : WaitingSystem K) : Event K → Nat → Failure → Prop
  | shut {ctx : ContextId} {timeout : Timeout} {subscriptions : List (Option (Handle .subscription))}
    {guards : List (Option (Handle .guardCondition))} (none : l.system.contexts.get? ctx = none) :
    Rejects l (.enter ctx timeout subscriptions guards) l.waits.length (.invalidArgument "context is shut down")
  | missing {ctx : ContextId} {c : Context K} {timeout : Timeout} {subscriptions : List (Option (Handle .subscription))}
    {guards : List (Option (Handle .guardCondition))} {f : Failure} (known : l.system.contexts.get? ctx = some c)
    (misses : c.Misses subscriptions guards f) :
    Rejects l (.enter ctx timeout subscriptions guards) l.waits.length f
  | again {n : Nat} {v : WaitCall} {w : Waitable} {k : ConditionId} {rest : List (Waitable × ConditionId)}
    (there : l.waits[n]? = some v) (stage : v.stage = .claiming ((w, k) :: rest)) (earlier : k ∈ v.held) :
    Rejects l (.claim n) n (inUse w)
  | held {n m : Nat} {v u : WaitCall} {w : Waitable} {k : ConditionId} {rest : List (Waitable × ConditionId)}
    (there : l.waits[n]? = some v) (stage : v.stage = .claiming ((w, k) :: rest)) (other : m ≠ n)
    (beside : l.waits[m]? = some u) (running : ¬ u.IsGone) (holds : k ∈ u.held) : Rejects l (.claim n) n (inUse w)

omit [DecidableEq K] in
theorem Rejects.noTransport {e : Event K} (rejects : l.Rejects e n f) (text : String) : f ≠ .transportFailure text := by
  cases rejects with
  | shut none => exact nofun
  | missing known misses => exact misses.noTransport text
  | again there stage earlier => exact nofun
  | held there stage other beside running holds => exact nofun

def Failed (l : WaitingSystem K) (n : Nat) (f : Failure) : Prop := ∃ v, l.waits[n]? = some v ∧ v.Fails f

omit [Catalog K] [DecidableEq K] in
theorem joinFailed {s' : System K} {w : WaitCall} :
    Failed ⟨s', l.waits ++ [w]⟩ n f ↔ l.Failed n f ∨ n = l.waits.length ∧ w.Fails f := by
  unfold Failed
  rcases Nat.lt_trichotomy n l.waits.length with less | rfl | more
  · simp [List.getElem?_append_left less, Nat.ne_of_lt less]
  · simp
  · simp [List.getElem?_eq_none (Nat.le_of_lt more), Nat.ne_of_gt more,
      List.getElem?_eq_none (show (l.waits ++ [w]).length ≤ n by simp; omega)]

omit [Catalog K] [DecidableEq K] in
theorem actFailed {m : Nat} {g : System K → WaitCall → System K × WaitCall} {R : WaitCall → Prop}
    (fails : ∀ v, l.waits[m]? = some v → ((g l.system v).2.Fails f ↔ v.Fails f ∨ R v)) :
    (l.act m g).Failed n f ↔ l.Failed n f ∨ n = m ∧ ∃ v, l.waits[m]? = some v ∧ R v := by
  unfold act
  cases there : l.waits[m]? with
  | none => simp
  | some v =>
    have inside : m < l.waits.length := (List.getElem?_eq_some_iff.1 there).1
    unfold Failed
    by_cases own : n = m
    · subst own
      simp only [List.getElem?_set_self inside, there, Option.some.injEq, exists_eq_left', true_and, fails v there]
    · simp [own, List.getElem?_set_ne (Ne.symm own)]

omit [Catalog K] [DecidableEq K] in
theorem actFailedNever {m : Nat} {g : System K → WaitCall → System K × WaitCall}
    (fails : ∀ v, l.waits[m]? = some v → ((g l.system v).2.Fails f ↔ v.Fails f)) :
    (l.act m g).Failed n f ↔ l.Failed n f := by
  rw [actFailed (R := fun _ => False) fun v there => by rw [fails v there, or_false]]
  simp

omit [Catalog K] [DecidableEq K] in
theorem enterFailed {ctx : ContextId} {timeout : Timeout} {subscriptions : List (Option (Handle .subscription))}
    {guards : List (Option (Handle .guardCondition))} : (l.enter ctx timeout subscriptions guards).Failed n f ↔
      l.Failed n f ∨ n = l.waits.length ∧ (l.system.contexts.get? ctx = none ∧
        f = .invalidArgument "context is shut down" ∨
          ∃ c, l.system.contexts.get? ctx = some c ∧ c.Misses subscriptions guards f) := by
  have away {g : Failure} : (l.turnAway ctx g).Failed n f ↔ l.Failed n f ∨ n = l.waits.length ∧ f = g :=
    joinFailed.trans (by simp [WaitCall.Fails, eq_comm])
  unfold enter
  cases known : l.system.contexts.get? ctx with
  | none => simp [away]
  | some c =>
    simp only [Option.some.injEq, exists_eq_left', reduceCtorEq, false_and, false_or]
    rw [Context.missesResolve]
    cases Site.resolve c.subscriptions (·.condition) subscriptions with
    | error g => simp [away, eq_comm]
    | ok slots =>
      cases Site.resolve c.guards (·.condition) guards with
      | error g => simp [away, eq_comm]
      | ok slots' => simp [joinFailed, WaitCall.Fails]

theorem Orderly.stepFailed (orderly : l.Orderly) (e : Event K) :
    (l.step e).Failed n f ↔ l.Failed n f ∨ l.Rejects e n f := by
  -- only two kinds of events reject a wait
  have never (none : l.Rejects e n f → False) : l.Failed n f ↔ l.Failed n f ∨ l.Rejects e n f :=
    (or_iff_left none).symm
  cases e with
  | call c =>
    refine Iff.trans ?_ (never fun rejects => by cases rejects)
    simp only [step]
    split <;> rfl
  | enter ctx timeout subscriptions guards =>
    rw [step, enterFailed]
    refine or_congr_right ⟨?_, ?_⟩
    · rintro ⟨rfl, ⟨none, rfl⟩ | ⟨c, known, misses⟩⟩
      · exact .shut none
      · exact .missing known misses
    · intro rejects
      cases rejects with
      | shut none => exact ⟨rfl, .inl ⟨none, rfl⟩⟩
      | missing known misses => exact ⟨rfl, .inr ⟨_, known, misses⟩⟩
  | claim m =>
    rw [step, actFailed fun v _ => WaitCall.claimFails]
    refine or_congr_right ⟨?_, ?_⟩
    · rintro ⟨rfl, v, there, w, k, rest, stage, taken, rfl⟩
      obtain ⟨m, u, beside, running, holds⟩ := orderly.flagged.1 taken
      by_cases own : m = n
      · subst own
        cases Option.some.inj (there.symm.trans beside)
        exact .again there stage holds
      · exact .held there stage own beside running holds
    · intro rejects
      cases rejects with
      | again there stage earlier =>
        have running := orderly.runs (List.mem_of_getElem? there) earlier
        exact ⟨rfl, _, there, _, _, _, stage, orderly.flagged.2 ⟨_, _, there, running, earlier⟩, rfl⟩
      | held there stage other beside running holds =>
        exact ⟨rfl, _, there, _, _, _, stage, orderly.flagged.2 ⟨_, _, beside, running, holds⟩, rfl⟩
  | block m clock =>
    refine Iff.trans (actFailedNever fun v there => ?_) (never fun rejects => by cases rejects)
    exact WaitCall.blockFails (orderly.claimsApart there) clock
  | turn m now => exact (actFailedNever fun v _ => WaitCall.turnFails now).trans (never fun rejects => by cases rejects)
  | collect m => exact (actFailedNever fun v _ => WaitCall.collectFails).trans (never fun rejects => by cases rejects)
  | release m => exact (actFailedNever fun v _ => WaitCall.releaseFails).trans (never fun rejects => by cases rejects)
  | leave m => exact (actFailedNever fun v _ => WaitCall.leaveFails).trans (never fun rejects => by cases rejects)

theorem Orderly.runFailed (orderly : l.Orderly) (events : List (Event K)) : (l.run events).Failed n f ↔
    l.Failed n f ∨ ∃ before e after, events = before ++ e :: after ∧ (l.run before).Rejects e n f := by
  induction events generalizing l with
  | nil => exact ⟨.inl, fun either => either.resolve_right fun ⟨before, e, after, split, _⟩ => by
      cases before <;> cases split⟩
  | cons first rest ih =>
    refine (ih (orderly.steps (l.stepSteps first))).trans ?_
    rw [orderly.stepFailed, or_assoc]
    refine or_congr_right ⟨?_, ?_⟩
    · rintro (rejects | ⟨before, e, after, rfl, rejects⟩)
      · exact ⟨[], first, rest, rfl, rejects⟩
      · exact ⟨first :: before, e, after, rfl, rejects⟩
    · rintro ⟨before, e, after, split, rejects⟩
      cases before with
      | nil =>
        obtain ⟨rfl, rfl⟩ := List.cons.inj split
        exact .inl rejects
      | cons first' before =>
        obtain ⟨rfl, rfl⟩ := List.cons.inj split
        exact .inr ⟨before, e, after, rfl, rejects⟩

/-! ### One record for a condition -/

def Apart (l : WaitingSystem K) : Prop := ∀ u ∈ l.waits, ∀ v ∈ l.waits, ∀ i j k,
  u.Lists i k → v.Lists j k → u.ctx = v.ctx ∧ i = j

theorem Orderly.stepApart (orderly : l.Orderly) (apart : l.Apart) {l' : WaitingSystem K} (step : l.Steps l') :
    l'.Apart := by
  have joins {s' : System K} {w : WaitCall} (new : ∀ j k, w.Lists j k → l.system.condition? w.ctx j = some k) :
      Apart ⟨s', l.waits ++ [w]⟩ := by
    intro u mem v mem' i j k lists lists'
    rcases List.mem_append.1 mem with old | own <;> rcases List.mem_append.1 mem' with old' | own'
    · exact apart u old v old' i j k lists lists'
    · cases List.mem_singleton.1 own'
      obtain ⟨ctx, same⟩ := (orderly.named u old i k lists).2 _ j (new j k lists')
      exact ⟨ctx.symm, same.symm⟩
    · cases List.mem_singleton.1 own
      exact (orderly.named v old' j k lists').2 _ i (new i k lists)
    · cases List.mem_singleton.1 own
      cases List.mem_singleton.1 own'
      exact ⟨rfl, (orderly.distinct _ i _ j k (new i k lists) (new j k lists')).2⟩
  cases step with
  | idle | calls => exact apart
  | away ctx f => exact joins fun j k lists => by cases j <;> cases lists
  | joins known listed listed' bare fit => exact joins fun j k lists => listsLive known listed listed' lists
  | @moves n v v' s' there moved =>
    have before {w : WaitCall} (mem : w ∈ l.waits.set n v') :
        ∃ u ∈ l.waits, u.ctx = w.ctx ∧ ∀ i k, w.Lists i k → u.Lists i k := by
      rcases List.mem_or_eq_of_mem_set mem with old | rfl
      · exact ⟨w, old, rfl, fun _ _ => id⟩
      · rw [moved.slots]
        exact ⟨v, List.mem_of_getElem? there, rfl, fun i k lists => by cases i <;> exact lists⟩
    intro u mem w mem' i j k lists lists'
    obtain ⟨u₀, old, ctx, same⟩ := before mem
    obtain ⟨w₀, old', ctx', same'⟩ := before mem'
    obtain ⟨own, eq⟩ := apart u₀ old w₀ old' i j k (same i k lists) (same' j k lists')
    exact ⟨ctx.symm.trans (own.trans ctx'), eq⟩

theorem Orderly.runApart (orderly : l.Orderly) (apart : l.Apart) (events : List (Event K)) : (l.run events).Apart := by
  induction events generalizing l with
  | nil => exact apart
  | cons e rest ih => exact ih (orderly.steps (l.stepSteps e)) (orderly.stepApart apart (l.stepSteps e))

/-! ### Admission -/

structure Admission (l : WaitingSystem K) (events : List (Event K)) : Prop where
  distinct : l.system.Distinct
  apart : l.Apart
  order : ∀ v ∈ l.waits, ∀ rest, v.stage = .claiming rest → v.held ++ rest.map Prod.snd = v.conditions
  refuses : ∀ ctx c clock timeout subscriptions guards f, l.system.contexts.get? ctx = some c →
    ((l.system.beginWait ctx clock timeout subscriptions guards).2 = .error f ↔ l.Refuses ctx c subscriptions guards f)
  admits : ∀ ctx c clock timeout subscriptions guards, l.system.contexts.get? ctx = some c →
    ((∃ t, (l.system.beginWait ctx clock timeout subscriptions guards).2 = .ok t) ↔
      c.subscriptions.Resolves subscriptions ∧ c.guards.Resolves guards ∧ (listed subscriptions guards).Nodup ∧
        ∀ i ∈ listed subscriptions guards, ¬ l.Holds ctx i)
  spares : ∀ ctx clock timeout subscriptions guards text,
    (l.system.beginWait ctx clock timeout subscriptions guards).2 ≠ .error (.transportFailure text)
  attaches : ∀ (n : Nat) v clock, l.waits[n]? = some v → v.stage = .claiming [] →
    ∃ t, (l.step (.block n clock)).waits[n]? = some { v with stage := .blocked t }
  polls : ∀ ws f, (l.system.bus.poll ws).1 = .error f → f = .timeout
  failed : ∀ n f, l.Failed n f ↔ ∃ before e after, events = before ++ e :: after ∧
    (({} : WaitingSystem K).run before).Rejects e n f
  transport : ∀ n text, ¬ l.Failed n (.transportFailure text)

/-- A wait fails for slots that do not resolve and for resources that are in use, never for the transport. -/
theorem waitsAdmitted (events : List (Event K)) : (({} : WaitingSystem K).run events).Admission events := by
  have orderly := orderlyFresh.run events
  have failed (n : Nat) (f : Failure) : (({} : WaitingSystem K).run events).Failed n f ↔ ∃ before e after,
      events = before ++ e :: after ∧ (({} : WaitingSystem K).run before).Rejects e n f := by
    refine (orderlyFresh.runFailed events).trans ⟨fun either => either.resolve_left ?_, .inr⟩
    rintro ⟨v, there, _⟩
    cases there
  refine ⟨orderly.distinct, orderlyFresh.runApart nofun events, fun v mem rest stage => orderly.inOrder mem stage,
    fun ctx c clock timeout subscriptions guards f known =>
    beginRefused orderly known clock timeout subscriptions guards f,
    fun ctx c clock timeout subscriptions guards known => ?_,
    fun ctx clock timeout subscriptions guards text transport => ?_, fun n v clock there stage => ?_, fun ws f => ?_,
    failed, fun n text transport => ?_⟩
  · have refuses (f : Failure) := beginRefused orderly known clock timeout subscriptions guards f
    rw [← not_not (a := _ ∧ _), ← refusesExact]
    simp only [← refuses]
    cases (System.beginWait _ ctx clock timeout subscriptions guards).2 <;> simp
  · cases known : (({} : WaitingSystem K).run events).system.contexts.get? ctx with
    | none => simp [System.beginWait, System.perform, known, System.reportAnswer] at transport
    | some c =>
      refine ((beginRefused orderly known clock timeout subscriptions guards _).1 transport).noTransport text rfl
  · obtain ⟨b, blocked⟩ := WaitCall.blockAttaches (s := (({} : WaitingSystem K).run events).system) stage
      (orderly.claimsApart there stage) clock
    refine ⟨v.ticket clock (({} : WaitingSystem K).run events).system, ?_⟩
    simp only [step, act, there, blocked]
    exact List.getElem?_set_self (List.getElem?_eq_some_iff.1 there).1
  · unfold Bus.poll
    split
    · exact fun same => (Except.error.inj same).symm
    · intro other
      cases other
  · obtain ⟨before, e, after, _, rejects⟩ := (failed n _).1 transport
    exact rejects.noTransport text rfl

end WaitingSystem

end Databus.Middleware
