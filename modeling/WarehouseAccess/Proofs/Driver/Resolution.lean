import Mathlib.Data.List.TakeWhile
import WarehouseAccess.Driver.Registry

/-!
# Remembering the choice of a backend

The choice of a backend is remembered together with the preference that led to it.  Here a resolver
is asked for backends any number of times, by preference or by a setting that the environment may
override.  As long as the drivers say the same about themselves, the memory shows in no answer.

### Outline

* `BackendAsk.Wants` says which preference an ask stands for;
* `Drivers.Resolves` lists the ways in which a preference leads to a backend or to an error;
* `ResolverCache.resolve_cases` is all that a resolver can do with a preference, and
  `ResolverCache.remember` what it keeps of the answer;
* `ResolverCache.Truthful` says that what is remembered would be found again;
* `answers_of_history` puts the asks of a run together.
-/

namespace WarehouseAccess

/-! ### What is asked for -/

/-- A text is blank just when trimming leaves nothing of it. -/
lemma isBlankText_iff_trim_eq (s : String) : isBlankText s = true ↔ trim s = "" := by
  rw [isBlankText, List.all_eq_true, trim, String.ofList_eq_empty_iff, dropAround, dropTrailing,
    List.reverse_eq_nil_iff, List.dropWhile_eq_nil_iff]
  simp only [List.mem_reverse]
  constructor
  · intro hall c hc
    exact hall c (List.dropWhile_suffix isBlank |>.subset hc)
  · intro hrest
    -- What is left begins with a character that is not blank, so nothing is left.
    rw [← List.dropWhile_eq_nil_iff]
    cases hleft : s.toList.dropWhile isBlank with
    | nil => rfl
    | cons c rest =>
      have hc := hrest c (by rw [hleft]; exact List.mem_cons_self)
      have hhead := List.head?_dropWhile_not isBlank s.toList
      simp [hleft, hc] at hhead

namespace DriverPreference

/-- A spelling is that of a preference just when it is one of the three, to the letter. -/
lemma parse_eq_ok_iff (s : String) (p : DriverPreference) : parse s = .ok p ↔ s = p.text := by
  unfold parse ofText?
  constructor
  · intro h
    cases hfind : all.find? fun p => p.text == s with
    | none => simp [hfind] at h
    | some q =>
      obtain rfl : q = p := by simpa [hfind] using h
      exact (by simpa using List.find?_some hfind : q.text = s).symm
  · rintro rfl
    cases p <;> rfl

/-- Any other spelling is refused, and the refusal shows it. -/
lemma parse_eq_error_iff (s : String) (why : InvalidSetting) :
    parse s = .error why ↔ (∀ p : DriverPreference, s ≠ p.text) ∧ why = .unknownBackend s := by
  constructor
  · intro h
    refine ⟨fun p hp => ?_, ?_⟩
    · rw [(parse_eq_ok_iff s p).mpr hp] at h
      cases h
    · unfold parse at h
      split at h
      · cases h
      · exact (Except.error.inj h).symm
  · rintro ⟨hother, rfl⟩
    cases h : parse s with
    | ok p => exact absurd ((parse_eq_ok_iff s p).mp h) (hother p)
    | error why =>
      unfold parse at h
      split at h
      · cases h
      · exact h.symm

end DriverPreference

/-- What a resolver is asked for. -/
inductive BackendAsk where
  | resolve (preference : DriverPreference)
  /-- A setting of a profile, with what the environment says about it at that time. -/
  | resolveEffective (setting : DriverPreference) (override : Option String)
deriving DecidableEq

namespace BackendAsk

/-- The preference that an ask stands for. -/
inductive Wants : BackendAsk → DriverPreference → Prop
  | preference (p : DriverPreference) : Wants (.resolve p) p
  /-- The environment says nothing, so the setting holds. -/
  | unset (setting : DriverPreference) : Wants (.resolveEffective setting none) setting
  /-- What the environment says is blank, so the setting holds. -/
  | blank (setting : DriverPreference) {s : String} (h : trim s = "") :
    Wants (.resolveEffective setting (some s)) setting
  /-- The environment names a preference, whatever the setting is. -/
  | override (setting : DriverPreference) {s : String} {p : DriverPreference}
    (h : trim s = p.text) : Wants (.resolveEffective setting (some s)) p

/-- The preference that is computed for an ask. -/
def preference : BackendAsk → Except InvalidSetting DriverPreference
  | resolve p => .ok p
  | resolveEffective setting override => setting.effective override

/-- An override that is not blank holds as it is spelled. -/
lemma preference_of_trim_ne (setting : DriverPreference) {s : String} (h : trim s ≠ "") :
    (resolveEffective setting (some s)).preference = DriverPreference.parse (trim s) := by
  have hblank : ¬ isBlankText s = true := fun hs => h ((isBlankText_iff_trim_eq s).mp hs)
  exact if_neg hblank

/-- A blank override leaves the setting. -/
lemma preference_of_trim_eq (setting : DriverPreference) {s : String} (h : trim s = "") :
    (resolveEffective setting (some s)).preference = .ok setting :=
  if_pos ((isBlankText_iff_trim_eq s).mpr h)

/-- No preference is spelled by the empty text. -/
lemma text_ne_empty (p : DriverPreference) : p.text ≠ "" := by
  cases p <;> decide

/-- The preference that is computed is the one that the ask stands for. -/
lemma preference_eq_ok_iff (ask : BackendAsk) (p : DriverPreference) :
    ask.preference = .ok p ↔ ask.Wants p := by
  constructor
  · intro h
    rcases ask with q | ⟨setting, _ | s⟩
    · obtain rfl := Except.ok.inj h
      exact .preference q
    · obtain rfl := Except.ok.inj h
      exact .unset setting
    · by_cases hs : trim s = ""
      · rw [preference_of_trim_eq setting hs] at h
        obtain rfl := Except.ok.inj h
        exact .blank setting hs
      · rw [preference_of_trim_ne setting hs, DriverPreference.parse_eq_ok_iff] at h
        exact .override setting h
  · intro h
    cases h with
    | preference => rfl
    | unset => rfl
    | blank _ hs => exact preference_of_trim_eq p hs
    | @override setting s _ hs =>
      have hne : trim s ≠ "" := hs ▸ text_ne_empty p
      rw [preference_of_trim_ne setting hne, DriverPreference.parse_eq_ok_iff, hs]

/-- There is no preference just when the environment says something that is neither blank nor the
spelling of one. -/
lemma preference_eq_error_iff (ask : BackendAsk) (why : InvalidSetting) :
    ask.preference = .error why ↔ ∃ setting s, ask = .resolveEffective setting (some s) ∧
      trim s ≠ "" ∧ (∀ p : DriverPreference, trim s ≠ p.text) ∧ why = .unknownBackend (trim s) := by
  constructor
  · intro h
    rcases ask with q | ⟨setting, _ | s⟩
    · cases h
    · cases h
    · by_cases hs : trim s = ""
      · rw [preference_of_trim_eq setting hs] at h
        cases h
      · rw [preference_of_trim_ne setting hs, DriverPreference.parse_eq_error_iff] at h
        exact ⟨setting, s, rfl, hs, h⟩
  · rintro ⟨setting, s, rfl, hs, hother⟩
    rw [preference_of_trim_ne setting hs, DriverPreference.parse_eq_error_iff]
    exact hother

/-- The backend that is found without a memory. -/
def found (ds : Drivers) : BackendAsk → Except BackendError Backend
  | resolve p => ds.resolve p
  | resolveEffective setting override => ds.resolveEffective setting override

/-- The answer of a resolver with a memory, and what it remembers afterwards. -/
def perform (cache : ResolverCache) (ds : Drivers) :
    BackendAsk → Except BackendError Backend × ResolverCache
  | resolve p => cache.resolve ds p
  | resolveEffective setting override => cache.resolveEffective ds setting override

/-- What is found depends on the preference only. -/
lemma found_eq (ask : BackendAsk) (ds : Drivers) :
    ask.found ds = match ask.preference with
      | .error why => .error (.invalidPreference why)
      | .ok p => ds.resolve p := by
  cases ask <;> rfl

/-- A memory is looked at for a preference only. -/
lemma perform_eq (ask : BackendAsk) (cache : ResolverCache) (ds : Drivers) :
    ask.perform cache ds = match ask.preference with
      | .error why => (.error (.invalidPreference why), cache)
      | .ok p => cache.resolve ds p := by
  cases ask <;> rfl

end BackendAsk

/-! ### What a preference leads to -/

namespace Drivers

/-- What the driver of a backend says about itself, if it is installed: why it cannot run here, if
it cannot. -/
def support (ds : Drivers) (b : Backend) : Option (Option String) :=
  (ds.get? b).map fun d => d.script.unsupported

/-- The driver of a backend is installed and can run. -/
def Available (ds : Drivers) (b : Backend) : Prop := ds.support b = some none

/-- Why a backend cannot be had. -/
inductive Unavailable (ds : Drivers) (b : Backend) : String → Prop
  | notInstalled (h : ds.support b = none) : Unavailable ds b "driver is not installed"
  | unsupported {reason : String} (h : ds.support b = some (some reason)) :
    Unavailable ds b reason

/-- A backend that is available is found. -/
lemma probe_of_available {ds : Drivers} {b : Backend} (h : ds.Available b) :
    ds.probe b = .ok b := by
  obtain ⟨d, hd, hd'⟩ := Option.map_eq_some_iff.mp h
  simp only [probe, hd, hd']

/-- The error for a backend that is not available says why. -/
lemma probe_of_unavailable {ds : Drivers} {b : Backend} {reason : String}
    (h : ds.Unavailable b reason) : ds.probe b = .error (.unavailable b reason) := by
  cases h with
  | notInstalled h =>
    have hd : ds.get? b = none := Option.map_eq_none_iff.mp h
    simp only [probe, hd]
  | unsupported h =>
    obtain ⟨d, hd, hd'⟩ := Option.map_eq_some_iff.mp h
    simp only [probe, hd, hd']

/-- A backend is available, or there is a reason why it is not. -/
lemma available_or_unavailable (ds : Drivers) (b : Backend) :
    ds.Available b ∨ ∃ reason, ds.Unavailable b reason := by
  rcases h : ds.support b with _ | _ | reason
  · exact .inr ⟨_, .notInstalled h⟩
  · exact .inl h
  · exact .inr ⟨reason, .unsupported h⟩

/-- A backend that is not available is not found. -/
lemma Unavailable.not_available {ds : Drivers} {b : Backend} {reason : String}
    (h : ds.Unavailable b reason) : ¬ ds.Available b := by
  intro hb
  have hprobe := probe_of_unavailable h
  rw [probe_of_available hb] at hprobe
  cases hprobe

/-- The ways in which a preference leads to a backend or to an error. -/
inductive Resolves (ds : Drivers) : DriverPreference → Except BackendError Backend → Prop
  /-- The native backend is wanted and can be had. -/
  | native (h : ds.Available .native) : Resolves ds .native (.ok .native)
  | noNative {reason : String} (h : ds.Unavailable .native reason) :
    Resolves ds .native (.error (.unavailable .native reason))
  /-- The backend behind the driver manager is wanted and can be had. -/
  | odbc (h : ds.Available .odbc) : Resolves ds .odbc (.ok .odbc)
  | noOdbc {reason : String} (h : ds.Unavailable .odbc reason) :
    Resolves ds .odbc (.error (.unavailable .odbc reason))
  /-- Either backend will do, and the native one can be had. -/
  | first (h : ds.Available .native) : Resolves ds .auto (.ok .native)
  /-- Either backend will do, and only the other one can be had. -/
  | second (hnative : ¬ ds.Available .native) (h : ds.Available .odbc) :
    Resolves ds .auto (.ok .odbc)
  /-- Neither can be had, and the error is that of the second. -/
  | neither (hnative : ¬ ds.Available .native) {reason : String} (h : ds.Unavailable .odbc reason) :
    Resolves ds .auto (.error (.unavailable .odbc reason))

/-- A preference leads to what is found for it. -/
lemma resolves_resolve (ds : Drivers) (p : DriverPreference) : ds.Resolves p (ds.resolve p) := by
  have hnative := ds.available_or_unavailable .native
  have hodbc := ds.available_or_unavailable .odbc
  cases p with
  | native =>
    rw [resolve]
    rcases hnative with h | ⟨reason, h⟩
    · rw [probe_of_available h]
      exact .native h
    · rw [probe_of_unavailable h]
      exact .noNative h
  | odbc =>
    rw [resolve]
    rcases hodbc with h | ⟨reason, h⟩
    · rw [probe_of_available h]
      exact .odbc h
    · rw [probe_of_unavailable h]
      exact .noOdbc h
  | auto =>
    rw [resolve]
    rcases hnative with h | ⟨why, hnative⟩
    · rw [probe_of_available h]
      exact .first h
    · rw [probe_of_unavailable hnative]
      rcases hodbc with h | ⟨reason, h⟩
      · rw [probe_of_available h]
        exact .second hnative.not_available h
      · rw [probe_of_unavailable h]
        exact .neither hnative.not_available h

/-- What is found depends on what the drivers say about themselves only. -/
lemma resolve_congr {ds ds' : Drivers} (h : ∀ b, ds'.support b = ds.support b)
    (p : DriverPreference) : ds'.resolve p = ds.resolve p := by
  have hprobe (b : Backend) : ds'.probe b = ds.probe b := by
    rcases ds.available_or_unavailable b with hb | ⟨reason, hb⟩
    · rw [probe_of_available hb, probe_of_available ((h b).trans hb)]
    · have hb' : ds'.Unavailable b reason := by
        cases hb with
        | notInstalled hb => exact .notInstalled ((h b).trans hb)
        | unsupported hb => exact .unsupported ((h b).trans hb)
      rw [probe_of_unavailable hb, probe_of_unavailable hb']
  cases p <;> simp only [resolve, hprobe]

end Drivers

/-! ### One ask -/

namespace ResolverCache

/-- What is remembered is what would be found again. -/
def Truthful (cache : ResolverCache) (ds : Drivers) : Prop :=
  ∀ p b, cache = some (p, b) → ds.resolve p = .ok b

/-- What is remembered after an answer for a preference. -/
def remember (cache : ResolverCache) (p : DriverPreference) :
    Except BackendError Backend → ResolverCache
  | .ok b => some (p, b)
  | .error _ => cache

/-- A preference is answered from memory, or by what is found for it, which is remembered. -/
lemma resolve_cases (cache : ResolverCache) (ds : Drivers) (p : DriverPreference) :
    (∃ b, cache = some (p, b) ∧ cache.resolve ds p = (.ok b, cache)) ∨
      cache.resolve ds p = (ds.resolve p, cache.remember p (ds.resolve p)) := by
  unfold resolve
  rcases cache with _ | ⟨q, b⟩
  · right
    cases ds.resolve p <;> rfl
  · by_cases hq : q = p
    · subst hq
      exact .inl ⟨b, rfl, if_pos rfl⟩
    · right
      simp only [if_neg hq]
      cases ds.resolve p <;> rfl

/-- From a truthful memory the answer is what would be found without it. -/
lemma resolve_of_truthful {cache : ResolverCache} {ds : Drivers} (h : cache.Truthful ds)
    (p : DriverPreference) :
    cache.resolve ds p = (ds.resolve p, cache.remember p (ds.resolve p)) := by
  rcases cache.resolve_cases ds p with ⟨b, hcache, hknown⟩ | hfound
  · rw [hknown, h p b hcache, remember, hcache]
  · exact hfound

section

variable {cache cache' : ResolverCache} {ds : Drivers} {setting : DriverPreference}
  {override : Option String}

/-- A choice that is made is remembered, and it was remembered before or it was found just now. -/
lemma eq_some_of_resolveEffective {b : Backend}
    (h : cache.resolveEffective ds setting override = (.ok b, cache')) :
    ∃ p, setting.effective override = .ok p ∧ cache' = some (p, b) ∧
      (cache = some (p, b) ∨ ds.resolve p = .ok b) := by
  unfold resolveEffective at h
  split at h
  next => simp at h
  next p hp =>
    refine ⟨p, hp, ?_⟩
    rcases cache.resolve_cases ds p with ⟨b', hcache, hknown⟩ | hfound
    · obtain ⟨hb, rfl⟩ := Prod.mk.inj (hknown.symm.trans h)
      obtain rfl := Except.ok.inj hb
      exact ⟨hcache, .inl hcache⟩
    · obtain ⟨hb, rfl⟩ := Prod.mk.inj (hfound.symm.trans h)
      rw [hb]
      exact ⟨rfl, .inr rfl⟩

/-- Where no choice is made, what was remembered stays. -/
lemma eq_of_resolveEffective {e : BackendError}
    (h : cache.resolveEffective ds setting override = (.error e, cache')) : cache' = cache := by
  unfold resolveEffective at h
  split at h
  next => exact (Prod.mk.inj h).2.symm
  next p _ =>
    rcases cache.resolve_cases ds p with ⟨b, _, hknown⟩ | hfound
    · exact (Prod.mk.inj (hknown.symm.trans h)).2.symm
    · obtain ⟨he, rfl⟩ := Prod.mk.inj (hfound.symm.trans h)
      rw [he, remember]

/-- A choice that was made is remembered: asked again the same way, it is made again at once. -/
lemma resolveEffective_again {b : Backend}
    (h : cache.resolveEffective ds setting override = (.ok b, cache')) (ds' : Drivers) :
    cache'.resolveEffective ds' setting override = (.ok b, cache') := by
  obtain ⟨p, hp, rfl, -⟩ := eq_some_of_resolveEffective h
  simp only [resolveEffective, hp, resolve, if_true]

end

/-- Remembering what was found keeps a memory truthful. -/
lemma Truthful.remember {cache : ResolverCache} {ds : Drivers} (h : cache.Truthful ds)
    (p : DriverPreference) : (cache.remember p (ds.resolve p)).Truthful ds := by
  cases hfound : ds.resolve p with
  | error e => exact h
  | ok b =>
    intro q b' hmemory
    obtain ⟨rfl, rfl⟩ := Prod.mk.inj (Option.some.inj hmemory)
    exact hfound

end ResolverCache

/-- An ask as it went. -/
structure BackendStep where
  ask : BackendAsk
  /-- The drivers at that time. -/
  drivers : Drivers
  /-- What was remembered before. -/
  cache : ResolverCache
  answer : Except BackendError Backend
  cacheAfter : ResolverCache

namespace BackendStep

/-- An ask of a resolver that remembers something. -/
def of (cache : ResolverCache) (ds : Drivers) (ask : BackendAsk) : BackendStep where
  ask := ask
  drivers := ds
  cache := cache
  answer := (ask.perform cache ds).1
  cacheAfter := (ask.perform cache ds).2

/-- The preference for which a backend was found, if one was. -/
def chosen (step : BackendStep) : Option DriverPreference :=
  match step.ask.preference, step.answer with
  | .ok p, .ok _ => some p
  | _, _ => none

/-- The rules by which an ask goes, where the drivers say of themselves what the given ones do. -/
structure FollowsRules (step : BackendStep) (ds : Drivers) : Prop where
  /-- The answer is the one that would be found without a memory. -/
  found : step.answer = step.ask.found ds
  /-- It is the one for the preference that the ask stands for. -/
  wanted : ∀ p, step.ask.Wants p → step.answer = ds.resolve p ∧ ds.Resolves p step.answer
  /-- An override that is neither blank nor the spelling of a preference is refused. -/
  refused : ∀ setting s, step.ask = .resolveEffective setting (some s) → trim s ≠ "" →
    (∀ p : DriverPreference, trim s ≠ p.text) →
      step.answer = .error (.invalidPreference (.unknownBackend (trim s)))
  /-- A backend that was found is remembered with the preference. -/
  remembered : ∀ p b, step.ask.Wants p → step.answer = .ok b → step.cacheAfter = some (p, b)
  /-- An error leaves the memory as it was. -/
  kept : ∀ e, step.answer = .error e → step.cacheAfter = step.cache

/-- From a truthful memory an ask without a preference is refused, and one with a preference is
answered by what is found for it, which is remembered. -/
lemma perform_of_truthful {cache : ResolverCache} {ds ds' : Drivers} (hcache : cache.Truthful ds)
    (hsupport : ∀ b, ds'.support b = ds.support b) (ask : BackendAsk) :
    ask.perform cache ds' = match ask.preference with
      | .error why => (.error (.invalidPreference why), cache)
      | .ok p => (ds.resolve p, cache.remember p (ds.resolve p)) := by
  have hsame := Drivers.resolve_congr hsupport
  have hcache' : cache.Truthful ds' := fun p b h => (hsame p).trans (hcache p b h)
  rw [ask.perform_eq]
  cases ask.preference with
  | error why => rfl
  | ok p =>
    dsimp only
    rw [ResolverCache.resolve_of_truthful hcache' p, hsame p]

/-- An ask leaves a truthful memory truthful. -/
lemma truthful_cacheAfter {cache : ResolverCache} {ds ds' : Drivers} (hcache : cache.Truthful ds)
    (hsupport : ∀ b, ds'.support b = ds.support b) (ask : BackendAsk) :
    (of cache ds' ask).cacheAfter.Truthful ds := by
  rw [of, perform_of_truthful hcache hsupport ask]
  cases ask.preference with
  | error why => exact hcache
  | ok p => exact hcache.remember p

/-- From a truthful memory an ask goes by the rules. -/
lemma followsRules_of {cache : ResolverCache} {ds ds' : Drivers} (hcache : cache.Truthful ds)
    (hsupport : ∀ b, ds'.support b = ds.support b) (ask : BackendAsk) :
    (of cache ds' ask).FollowsRules ds := by
  -- what is remembered is the truth, so the answer is that of a new search
  have hfound : (of cache ds' ask).answer = ask.found ds := by
    rw [of, perform_of_truthful hcache hsupport ask, ask.found_eq]
    cases ask.preference <;> rfl
  constructor
  case found => exact hfound
  case wanted =>
    intro p hp
    rw [← BackendAsk.preference_eq_ok_iff] at hp
    have hp' : ask.preference = .ok p := hp
    rw [hfound, ask.found_eq, hp']
    exact ⟨rfl, ds.resolves_resolve p⟩
  case refused =>
    intro setting s hask hblank hother
    have hp : ask.preference = .error (.unknownBackend (trim s)) :=
      (ask.preference_eq_error_iff _).mpr ⟨setting, s, hask, hblank, hother, rfl⟩
    rw [hfound, ask.found_eq, hp]
  case remembered =>
    intro p b hp hanswer
    rw [← BackendAsk.preference_eq_ok_iff] at hp
    have hp' : ask.preference = .ok p := hp
    rw [hfound, ask.found_eq, hp'] at hanswer
    rw [of, perform_of_truthful hcache hsupport ask, hp']
    dsimp only at hanswer ⊢
    rw [hanswer]
    rfl
  case kept =>
    intro e hanswer
    rw [hfound, ask.found_eq] at hanswer
    rw [of, perform_of_truthful hcache hsupport ask]
    cases hp : ask.preference with
    | error why => rfl
    | ok p =>
      rw [hp] at hanswer
      dsimp only at hanswer ⊢
      rw [hanswer]
      rfl

/-- The preference that is remembered after an ask is the one for which a backend was found, and
else the one from before. -/
lemma FollowsRules.preference_cacheAfter {step : BackendStep} {ds : Drivers}
    (h : step.FollowsRules ds) :
    step.cacheAfter.map Prod.fst = step.chosen.or (step.cache.map Prod.fst) := by
  have hfound := h.found
  unfold chosen
  cases hanswer : step.answer with
  | error e =>
    rw [h.kept e hanswer]
    cases step.ask.preference <;> rfl
  | ok b =>
    cases hp : step.ask.preference with
    | error why =>
      rw [hanswer, step.ask.found_eq, hp] at hfound
      cases hfound
    | ok p =>
      rw [h.remembered p b ((step.ask.preference_eq_ok_iff p).mp hp) hanswer]
      rfl

end BackendStep

/-! ### Runs of asks -/

namespace ResolverCache

/-- Asks one after the other, each with the drivers as they are at that time. -/
def history : ResolverCache → List (Drivers × BackendAsk) → List BackendStep
  | _, [] => []
  | cache, (ds, ask) :: rest =>
    .of cache ds ask :: history (BackendStep.of cache ds ask).cacheAfter rest

/-- The steps of a run are its asks. -/
lemma map_history (cache : ResolverCache) (asks : List (Drivers × BackendAsk)) :
    (history cache asks).map (fun step => (step.drivers, step.ask)) = asks := by
  induction asks generalizing cache with
  | nil => rfl
  | cons ask asks ih => exact congrArg (ask :: ·) (ih _)

/-- From a truthful memory all asks go by the rules, as long as the drivers say the same about
themselves. -/
lemma followsRules_of_mem_history {ds : Drivers} {asks : List (Drivers × BackendAsk)}
    (h : ∀ ask ∈ asks, ∀ b, ask.1.support b = ds.support b) {cache : ResolverCache}
    (hcache : cache.Truthful ds) : ∀ step ∈ history cache asks, step.FollowsRules ds := by
  induction asks generalizing cache with
  | nil => simp [history]
  | cons ask asks ih =>
    have hsupport := h ask List.mem_cons_self
    have hafter := BackendStep.truthful_cacheAfter hcache hsupport ask.2
    intro step hstep
    rcases List.mem_cons.mp hstep with rfl | hstep
    · exact BackendStep.followsRules_of hcache hsupport ask.2
    · exact ih (fun ask' hask' => h ask' (List.mem_cons_of_mem _ hask')) hafter step hstep

/-- When all asks go by the rules, the preference that is remembered is the last one for which a
backend was found, and the one from the beginning if there is none. -/
lemma preference_cacheAfter_of_history {ds : Drivers} (asks : List (Drivers × BackendAsk))
    (cache : ResolverCache) (h : ∀ step ∈ history cache asks, step.FollowsRules ds)
    (earlier : List BackendStep) (step : BackendStep) (later : List BackendStep)
    (hsplit : history cache asks = earlier ++ step :: later) :
    step.cacheAfter.map Prod.fst =
      ((earlier ++ [step]).filterMap BackendStep.chosen).getLast?.or (cache.map Prod.fst) := by
  induction asks generalizing cache earlier with
  | nil => simp [history] at hsplit
  | cons ask asks ih =>
    have hone : (BackendStep.of cache ask.1 ask.2).cacheAfter.map Prod.fst =
        (BackendStep.of cache ask.1 ask.2).chosen.or (cache.map Prod.fst) :=
      (h _ List.mem_cons_self).preference_cacheAfter
    cases earlier with
    | nil =>
      obtain ⟨hstep, -⟩ := List.cons.inj hsplit
      rw [← hstep, hone]
      cases hchosen : (BackendStep.of cache ask.1 ask.2).chosen <;> simp [hchosen]
    | cons first earlier =>
      obtain ⟨hfirst, hrest⟩ := List.cons.inj hsplit
      rw [ih _ (fun step hstep => h step (List.mem_cons_of_mem _ hstep)) earlier hrest, hone,
        List.cons_append, List.filterMap_cons, ← hfirst]
      cases hchosen : (BackendStep.of cache ask.1 ask.2).chosen with
      | none => rfl
      | some p =>
        rw [List.getLast?_cons]
        cases ((earlier ++ [step]).filterMap BackendStep.chosen).getLast? <;> rfl

/-- Any asks of a new resolver, by any preferences, settings and overrides, whatever the drivers do
in between, as long as they say the same about themselves.

Every ask goes by the rules of `BackendStep.FollowsRules`, so that it is answered as it would be
without a memory, and the preference that is remembered after it is the last one for which a backend
was found. -/
theorem answers_of_history (ds : Drivers) (asks : List (Drivers × BackendAsk))
    (h : ∀ ask ∈ asks, ∀ b, ask.1.support b = ds.support b) :
    let steps := history none asks
    steps.map (fun step => (step.drivers, step.ask)) = asks ∧
    (∀ step ∈ steps, step.FollowsRules ds) ∧
    ∀ earlier step later, steps = earlier ++ step :: later →
      step.cacheAfter.map Prod.fst =
        ((earlier ++ [step]).filterMap BackendStep.chosen).getLast? := by
  intro steps
  have hrules : ∀ step ∈ steps, step.FollowsRules ds :=
    followsRules_of_mem_history h fun p b hnone => by cases hnone
  refine ⟨map_history none asks, hrules, fun earlier step later hsplit => ?_⟩
  have hlast := preference_cacheAfter_of_history asks none hrules earlier step later hsplit
  rwa [Option.map_none, Option.or_none] at hlast

/-- With a driver behind the driver manager only: a backend is found without a preference, and again
by an override with blanks around it after the driver was used; then an override is refused, and the
native backend is not to be had.  What is remembered stays that of the second ask. -/
theorem answers_of_four_asks :
    let ds : Drivers := { odbc := some { script := {} } }
    let used : Drivers := { odbc := some { script := {}, record := { cursors := 1 } } }
    let asks : List (Drivers × BackendAsk) :=
      [(ds, .resolve .auto), (used, .resolveEffective .native (some " odbc\n")),
        (used, .resolveEffective .auto (some "ODBC")), (used, .resolve .native)]
    (∀ ask ∈ asks, ∀ b, ask.1.support b = ds.support b) ∧
    (∀ step ∈ history none asks, step.FollowsRules ds) ∧
    (history none asks).map (fun step => (step.answer, step.cacheAfter.map Prod.fst)) =
      [(.ok .odbc, some .auto), (.ok .odbc, some .odbc),
        (.error (.invalidPreference (.unknownBackend "ODBC")), some .odbc),
        (.error (.unavailable .native "driver is not installed"), some .odbc)] := by
  intro ds used asks
  have hsupport : ∀ ask ∈ asks, ∀ b, ask.1.support b = ds.support b := by
    intro ask hask b
    simp only [asks, List.mem_cons, List.not_mem_nil, or_false] at hask
    rcases hask with rfl | rfl | rfl | rfl <;> cases b <;> rfl
  exact ⟨hsupport, (answers_of_history ds asks hsupport).2.1, by decide⟩

end ResolverCache

end WarehouseAccess
