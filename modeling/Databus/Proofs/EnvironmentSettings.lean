import Databus.Middleware.System

/-! Contexts that take their settings from an environment. A variable counts if its octets are a numeral below its
bound, told digit by digit, or text that is not empty; whatever else it holds is as good as nothing. So every
environment comes to settings that can be used, and only a domain that is too large is refused. -/
namespace Databus

namespace Octets

theorem textOctets (s : String) : ofText s = s.toList.flatMap String.utf8EncodeChar := by
  have whole : s.toByteArray = s.toList.utf8Encode := by
    rw [← String.toByteArray_ofList, String.ofList_toList]
  rw [ofText, whole, List.utf8Encode, List.toList_data_toByteArray]

theorem textExact {o : Octets} {s : String} : text? o = some s ↔ o = ofText s :=
  ⟨fun read => (readText read).symm, fun same => same ▸ textRead s⟩

end Octets

namespace Text

/-- Decimal digits in ASCII, the highest first, and the number that they stand for. -/
inductive Digits : Octets → Nat → Prop
  | one {k : Nat} (digit : k < 10) : Digits [UInt8.ofNat (48 + k)] k
  | more {o : Octets} {n k : Nat} (front : Digits o n) (digit : k < 10) :
    Digits (o ++ [UInt8.ofNat (48 + k)]) (10 * n + k)

inductive Numeral : Octets → Nat → Prop
  | bare {o : Octets} {n : Nat} (digits : Digits o n) : Numeral o n
  | signed {o : Octets} {n : Nat} (digits : Digits o n) : Numeral (43 :: o) n

/-! ### Numerals octet by octet -/

def Counts (cs : List Char) (n : Nat) : Prop := cs ≠ [] ∧ cs.all Char.isDigit = true ∧ digitsValue cs = n

theorem digitBounds {c : Char} (digit : c.isDigit = true) : 48 ≤ c.toNat ∧ c.toNat ≤ 57 := by
  simp only [Char.isDigit, Bool.and_eq_true, decide_eq_true_eq, ge_iff_le, UInt32.le_iff_toNat_le] at digit
  exact digit

theorem digitEncoded {c : Char} (digit : c.isDigit = true) :
    String.utf8EncodeChar c = [UInt8.ofNat (48 + (c.toNat - 48))] := by
  obtain ⟨low, high⟩ := digitBounds digit
  have ascii : c.val.toNat ≤ 127 := Nat.le_trans high (by decide)
  rw [Nat.add_sub_cancel' low, String.utf8EncodeChar]
  exact if_pos ascii

theorem digitChar : ∀ k < 10, (Char.ofNat (48 + k)).isDigit = true ∧ (Char.ofNat (48 + k)).toNat - 48 = k := by
  decide

theorem digitsValueLast (cs : List Char) (c : Char) :
    digitsValue (cs ++ [c]) = 10 * digitsValue cs + (c.toNat - 48) := by
  rw [digitsValue, List.foldl_append]
  rfl

theorem digitsCounted {o : Octets} {n : Nat} (digits : Digits o n) :
    ∃ cs, cs.flatMap String.utf8EncodeChar = o ∧ Counts cs n := by
  induction digits with
  | @one k digit =>
    obtain ⟨isDigit, value⟩ := digitChar k digit
    refine ⟨[Char.ofNat (48 + k)], ?_, List.cons_ne_nil _ _, by simp [isDigit], ?_⟩
    · rw [List.flatMap_singleton, digitEncoded isDigit, value]
    · rw [← List.nil_append [_], digitsValueLast, value]
      exact Nat.zero_add k
  | @more o n k front digit ih =>
    obtain ⟨isDigit, value⟩ := digitChar k digit
    obtain ⟨cs, rfl, _, all, rfl⟩ := ih
    refine ⟨cs ++ [Char.ofNat (48 + k)], ?_, by simp, by simp [all, isDigit], ?_⟩
    · rw [List.flatMap_append, List.flatMap_singleton, digitEncoded isDigit, value]
    · rw [digitsValueLast, value]

theorem digitsEncoded {cs : List Char} {n : Nat} (counts : Counts cs n) :
    Digits (cs.flatMap String.utf8EncodeChar) n := by
  obtain ⟨filled, all, rfl⟩ := counts
  -- the last digit is the lowest, so the digits are taken from the back
  obtain ⟨back, rfl⟩ : ∃ back : List Char, cs = back.reverse := ⟨cs.reverse, cs.reverse_reverse.symm⟩
  induction back with
  | nil => exact absurd rfl filled
  | cons c rest ih =>
    rw [List.reverse_cons] at all ⊢
    simp only [List.all_append, List.all_cons, List.all_nil, Bool.and_true, Bool.and_eq_true] at all
    obtain ⟨low, high⟩ := digitBounds all.2
    have digit : c.toNat - 48 < 10 := by omega
    rw [List.flatMap_append, List.flatMap_singleton, digitEncoded all.2, digitsValueLast]
    cases rest with
    | nil => exact Eq.subst (motive := Digits _) (Nat.zero_add _).symm (.one digit)
    | cons c' rest => exact .more (ih (by simp) all.1) digit

theorem unsignedDigits {cs : List Char} {n : Nat} (counts : Counts cs n) : unsigned cs = cs := by
  unfold unsigned
  split
  · cases counts.2.1
  · rfl

theorem numeralCounted {o : Octets} {n : Nat} :
    Numeral o n ↔ ∃ s, o = Octets.ofText s ∧ Counts (unsigned s.toList) n := by
  constructor
  · intro numeral
    cases numeral with
    | bare digits =>
      obtain ⟨cs, rfl, counts⟩ := digitsCounted digits
      refine ⟨String.ofList cs, ?_, ?_⟩
      · rw [Octets.textOctets, String.toList_ofList]
      · rwa [String.toList_ofList, unsignedDigits counts]
    | signed digits =>
      obtain ⟨cs, rfl, counts⟩ := digitsCounted digits
      refine ⟨String.ofList ('+' :: cs), ?_, ?_⟩
      · rw [Octets.textOctets, String.toList_ofList]
        rfl
      · rwa [String.toList_ofList]
  · rintro ⟨s, rfl, counts⟩
    rw [Octets.textOctets]
    generalize s.toList = cs at counts ⊢
    unfold unsigned at counts
    split at counts
    · exact .signed (digitsEncoded counts)
    · exact .bare (digitsEncoded counts)

theorem numeralValue {bound n : Nat} {s : String} :
    numeral? bound s = some n ↔ Counts (unsigned s.toList) n ∧ n < bound := by
  unfold numeral?
  dsimp only
  constructor
  · intro read
    split at read
    · rename_i valid
      cases read
      exact ⟨⟨valid.1, valid.2.1, rfl⟩, valid.2.2⟩
    · cases read
  · rintro ⟨⟨filled, all, rfl⟩, small⟩
    exact if_pos ⟨filled, all, small⟩

end Text

namespace Middleware

open Text

namespace Environment

/-! ### What is asked for -/

def Gives (env : Environment) (v : Variable) (bound n : Nat) : Prop :=
  ∃ o, env v = some o ∧ Numeral o n ∧ n < bound

inductive Prefers {α : Type} (asked otherwise : α → Prop) : α → Prop
  | asked {a : α} (given : asked a) : Prefers asked otherwise a
  | otherwise {a : α} (without : ∀ b, ¬ asked b) (falls : otherwise a) : Prefers asked otherwise a

def AsksDomain (env : Environment) : DomainId → Prop :=
  Prefers (env.Gives .domainId UInt32.size) (Prefers (env.Gives .sharedDomainId UInt32.size) (· = 0))

def AsksLevel (env : Environment) : String → Prop :=
  Prefers (fun text => text ≠ "" ∧ env .logLevel = some (Octets.ofText text)) (· = "info")

def AsksInterval (env : Environment) : Nat → Prop :=
  Prefers (fun span => ∃ ms, (0 < ms ∧ env.Gives .waitPollMs UInt64.size ms) ∧ Nanos.ofMillis ms = span)
    (· = Nanos.ofMillis 1000)

def AsksHandles (env : Environment) : Nat → Prop :=
  Prefers (fun n => 0 < n ∧ env.Gives .maxHandles UInt64.size n) (· = 4096)

structure Asks (env : Environment) (s : Settings) : Prop where
  domain : env.AsksDomain s.domain
  logLevel : env.AsksLevel s.logLevel
  pollInterval : env.AsksInterval s.pollInterval
  maxHandles : env.AsksHandles s.maxHandles

variable {env : Environment} {v : Variable} {bound n : Nat}

theorem textGiven {text : String} : env.text? v = some text ↔ env v = some (Octets.ofText text) := by
  simp only [text?, Option.bind_eq_some_iff, Octets.textExact, exists_eq_right]

theorem numeralGiven : env.numeral? v bound = some n ↔ env.Gives v bound n := by
  simp only [numeral?, Option.bind_eq_some_iff, textGiven, numeralValue, Gives, numeralCounted]
  constructor
  · rintro ⟨text, held, counts, small⟩
    exact ⟨_, held, ⟨text, rfl, counts⟩, small⟩
  · rintro ⟨_, held, ⟨text, rfl, counts⟩, small⟩
    exact ⟨text, held, counts, small⟩

theorem positiveGiven : env.positive? v bound = some n ↔ 0 < n ∧ env.Gives v bound n := by
  simp only [positive?, Option.filter_eq_some_iff, numeralGiven, decide_eq_true_eq, and_comm]

theorem prefersExact {α : Type} {asked otherwise : α → Prop} {o : Option α} {usual : α}
    (given : ∀ a, o = some a ↔ asked a) (falls : ∀ a, otherwise a ↔ a = usual) (a : α) :
    Prefers asked otherwise a ↔ a = o.getD usual := by
  constructor
  · intro prefers
    cases prefers with
    | asked there => rw [(given a).2 there, Option.getD_some]
    | otherwise without there =>
      have nothing : o = none := Option.eq_none_iff_forall_ne_some.2 fun b found => without b ((given b).1 found)
      rw [nothing, Option.getD_none]
      exact (falls a).1 there
  · rintro rfl
    cases o with
    | some a => exact .asked ((given a).1 rfl)
    | none => exact .otherwise (fun b there => nomatch (given b).2 there) ((falls usual).2 rfl)

theorem domainExact : env.AsksDomain n ↔ n = (Settings.ofEnvironment env).domain := by
  change _ ↔ n = ((env.numeral? .domainId UInt32.size).or (env.numeral? .sharedDomainId UInt32.size)).getD 0
  rw [Option.getD_or]
  exact prefersExact (fun _ => numeralGiven) (prefersExact (fun _ => numeralGiven) fun _ => Iff.rfl) n

theorem levelExact {text : String} : env.AsksLevel text ↔ text = (Settings.ofEnvironment env).logLevel := by
  refine prefersExact (fun text => ?_) (fun _ => Iff.rfl) text
  rw [Option.filter_eq_some_iff, textGiven, decide_eq_true_eq, and_comm]

theorem intervalExact : env.AsksInterval n ↔ n = (Settings.ofEnvironment env).pollInterval := by
  refine prefersExact (fun span => ?_) (fun _ => Iff.rfl) n
  rw [Option.map_eq_some_iff]
  exact exists_congr fun ms => and_congr_left fun _ => positiveGiven

theorem handlesExact : env.AsksHandles n ↔ n = (Settings.ofEnvironment env).maxHandles :=
  prefersExact (fun _ => positiveGiven) (fun _ => Iff.rfl) n

theorem asksExact {s : Settings} : env.Asks s ↔ s = Settings.ofEnvironment env := by
  constructor
  · intro asks
    obtain ⟨domain, logLevel, pollInterval, maxHandles⟩ := s
    obtain ⟨domain, level, interval, handles⟩ := asks
    cases domainExact.1 domain
    cases levelExact.1 level
    cases intervalExact.1 interval
    cases handlesExact.1 handles
    rfl
  · rintro rfl
    exact ⟨domainExact.2 rfl, levelExact.2 rfl, intervalExact.2 rfl, handlesExact.2 rfl⟩

end Environment

theorem asksPositive {env : Environment} {s : Settings} (asks : env.Asks s) :
    0 < s.pollInterval ∧ 0 < s.maxHandles ∧ s.logLevel ≠ "" := by
  refine ⟨?_, ?_, ?_⟩
  · cases asks.pollInterval with
    | asked given =>
      obtain ⟨ms, ⟨positive, _⟩, span⟩ := given
      exact span ▸ Nat.mul_pos positive (by decide)
    | otherwise _ usual => exact usual ▸ (by decide)
  · cases asks.maxHandles with
    | asked given => exact given.1
    | otherwise _ usual => exact usual ▸ (by decide)
  · cases asks.logLevel with
    | asked given => exact given.1
    | otherwise _ usual => exact usual ▸ (by decide)

namespace System

variable {K : Type}

structure Settled (s : System K) (env : Environment) (settings : Settings) : Prop where
  asked : ∀ settings', env.Asks settings' ↔ settings' = settings
  waits : 0 < settings.pollInterval
  holds : 0 < settings.maxHandles
  tells : settings.logLevel ≠ ""
  refused : 232 < settings.domain → (s.initFromEnvironment env).2.2 =
    .error (.invalidArgument s!"domain id {settings.domain} out of range (0-{maxDomainId})")
  opened : settings.domain ≤ 232 → ∃ ctx c, (s.initFromEnvironment env).2.2 = .ok ctx ∧
    (s.initFromEnvironment env).1.contexts.get? ctx = some c ∧ c.settings = settings
  keptFilter : ∀ o, env .logFilter = some o → (s.initFromEnvironment env).2.1 .logFilter = some o
  setFilter : env .logFilter = none →
    (s.initFromEnvironment env).2.1 .logFilter = some (Octets.ofText settings.logLevel)
  others : ∀ v, v ≠ .logFilter → (s.initFromEnvironment env).2.1 v = env v

theorem validateDomain {settings : Settings} (waits : 0 < settings.pollInterval) (holds : 0 < settings.maxHandles) :
    validate settings = if 232 < settings.domain then
      .error (.invalidArgument s!"domain id {settings.domain} out of range (0-{maxDomainId})") else .ok () := by
  simp only [validate, if_neg (Nat.ne_of_gt waits), if_neg (Nat.ne_of_gt holds)]
  rfl

theorem initRefused (s : System K) {settings : Settings} {f : Failure} (refused : validate settings = .error f) :
    (s.init settings).2 = .error f := by
  simp only [init, refused, report]

theorem initOpened (s : System K) {settings : Settings} (valid : validate settings = .ok ()) :
    ∃ ctx c, (s.init settings).2 = .ok ctx ∧ (s.init settings).1.contexts.get? ctx = some c ∧
      c.settings = settings := by
  unfold init
  rw [valid]
  exact ⟨_, _, rfl, (Table.getInsert ..).trans (if_pos rfl), rfl⟩

end System

theorem levelApplied (settings : Settings) (env : Environment) :
    settings.applyLogLevel env .logFilter = some ((env .logFilter).getD (Octets.ofText settings.logLevel)) ∧
      ∀ v, v ≠ .logFilter → settings.applyLogLevel env v = env v := by
  unfold Settings.applyLogLevel
  cases held : env .logFilter with
  | some o => exact ⟨held, fun _ _ => rfl⟩
  | none => exact ⟨if_pos rfl, fun _ other => if_neg other⟩

/-- Any environment can be used, unless the domain that it asks for is out of range. -/
theorem environmentsSettled (s : System K) (env : Environment) : s.Settled env (.ofEnvironment env) := by
  obtain ⟨waits, holds, tells⟩ := asksPositive (env.asksExact.2 rfl)
  have valid := System.validateDomain waits holds
  obtain ⟨filter, others⟩ := levelApplied (.ofEnvironment env) env
  refine ⟨fun _ => Environment.asksExact, waits, holds, tells, fun far => ?_, fun near => ?_, fun o held => ?_,
    fun unset => ?_, others⟩
  · exact System.initRefused s (valid.trans (if_pos far))
  · exact System.initOpened s (valid.trans (if_neg (Nat.not_lt.2 near)))
  · exact filter.trans (by rw [held, Option.getD_some])
  · exact filter.trans (by rw [unset, Option.getD_none])

example : (Settings.ofEnvironment fun
    | .domainId => some [43, 50, 51, 51]
    | .sharedDomainId => some [55]
    | _ => none).domain = 233 := by
  decide +kernel

end Middleware
end Databus
