import WarehouseAccess.Proofs.Connection.Mechanisms
import WarehouseAccess.Proofs.Connection.Memory
import WarehouseAccess.Proofs.Text.Substitute

/-!
# Showing a connection string

The connection string that a manager shows is made anew, and not taken from a connection.  It is the
one that an opening uses all the same: both have to find a backend and then have to write the string
for it, and `ConnectionManager.preparation` is that common part.  If it fails, there is nothing to
show and no try to sign in, for the same reason; if it does not, every try gets the string, and what
is shown is the string with the secret of the mode masked.
-/

namespace WarehouseAccess

variable {σ τ : Type}

/-- There is at least one attempt. -/
lemma RetryPolicy.starts_ne_nil {ε α : Type} (policy : RetryPolicy) (isRetryable : ε → Bool)
    (pause : Duration → σ → σ) (operation : ℕ → σ → Except ε α × σ) (s : σ) :
    policy.starts isRetryable pause operation s ≠ [] := by
  unfold starts
  cases policy.attempts - 1 with
  | zero => exact List.cons_ne_nil _ _
  | succ left => exact List.cons_ne_nil _ _

/-- A choice that is not made changes nothing. -/
lemma Session.eq_of_backendFor_error {s s' : Session σ τ} {p : Profile} {e : ConnectionError}
    (h : s.backendFor p = (.error e, s')) : s' = s := by
  unfold backendFor at h
  rcases hr : s.resolver.resolveEffective s.drivers p.driverBackend s.override with
    ⟨outcome, resolver⟩
  rw [hr] at h
  cases outcome with
  | error fault =>
    obtain rfl := ResolverCache.eq_of_resolveEffective hr
    exact (Prod.mk.inj h).2.symm
  | ok b => simp at h

/-- A choice that is made again is made as before. -/
lemma Session.backendFor_backendFor (s : Session σ τ) (p : Profile) :
    (s.backendFor p).2.backendFor p = s.backendFor p := by
  rcases h : s.backendFor p with ⟨outcome, s'⟩
  cases outcome with
  | error e =>
    obtain rfl := eq_of_backendFor_error h
    exact h
  | ok b => exact ConnectionManager.backendFor_again h rfl rfl rfl

namespace ConnectionManager

variable (m : ConnectionManager) (services : Services σ τ) (s : Session σ τ)

/-- What a connection is opened with: a backend and the connection string for it. -/
def preparation : Except ConnectionError (Backend × String) :=
  match (s.backendFor m.profile).1 with
  | .error e => .error e
  | .ok b =>
    match m.connectionString b with
    | .error e => .error (.driver e)
    | .ok text => .ok (b, text)

/-- Either there is no backend, or there is no string for it. -/
lemma preparation_eq_error_iff {e : ConnectionError} :
    m.preparation s = .error e ↔
      (s.backendFor m.profile).1 = .error e ∨
        ∃ b fault, (s.backendFor m.profile).1 = .ok b ∧ m.connectionString b = .error fault ∧
          e = .driver fault := by
  unfold preparation
  cases (s.backendFor m.profile).1 with
  | error e' => simp
  | ok b =>
    dsimp only
    cases htext : m.connectionString b with
    | error fault => simp [htext, eq_comm]
    | ok text => simp [htext]

/-- What is shown is the string of the preparation with the secret masked. -/
lemma displayConnectionString_eq :
    m.displayConnectionString s =
      ((m.preparation s).map fun prepared => maskSecret prepared.2 (loginFields m.profile).2,
        (s.backendFor m.profile).2) := by
  unfold displayConnectionString preparation
  rcases s.backendFor m.profile with ⟨outcome, s'⟩
  cases outcome with
  | error e => rfl
  | ok b =>
    dsimp only
    cases m.connectionString b with
    | error fault => rfl
    | ok text => rfl

/-- Nothing is shown if the preparation fails. -/
lemma displayConnectionString_eq_error_iff {e : ConnectionError} :
    (m.displayConnectionString s).1 = .error e ↔ m.preparation s = .error e := by
  rw [displayConnectionString_eq]
  cases m.preparation s with
  | error e' => exact ⟨fun h => congrArg _ (Except.error.inj h), fun h => by rw [h]; rfl⟩
  | ok prepared => exact ⟨nofun, nofun⟩

/-- Otherwise a masked string is shown. -/
lemma displayConnectionString_eq_ok_iff {masked : String} :
    (m.displayConnectionString s).1 = .ok masked ↔
      ∃ b text, m.preparation s = .ok (b, text) ∧
        Masked (loginFields m.profile).2 text masked := by
  rw [displayConnectionString_eq]
  cases m.preparation s with
  | error e => exact ⟨nofun, nofun⟩
  | ok prepared =>
    obtain ⟨b, text⟩ := prepared
    constructor
    · intro h
      exact ⟨b, text, rfl, masked_iff.mpr (Except.ok.inj h).symm⟩
    · rintro ⟨b', text', hprepared, hmasked⟩
      obtain ⟨rfl, rfl⟩ := Prod.mk.inj (Except.ok.inj hprepared)
      rw [masked_iff.mp hmasked]
      rfl

variable {m s}

/-- If the preparation fails, connecting fails with its error, and there is no try to sign in. -/
lemma connect_of_preparation_error {e : ConnectionError} (h : m.preparation s = .error e) :
    m.connect services s = (.error e, (s.backendFor m.profile).2) ∧ m.logins services s = [] := by
  unfold preparation at h
  unfold connect logins
  rcases hbackend : s.backendFor m.profile with ⟨outcome, s'⟩
  rw [hbackend] at h
  cases outcome with
  | error e' =>
    obtain rfl := Except.error.inj h
    exact ⟨rfl, rfl⟩
  | ok b =>
    dsimp only at h ⊢
    cases htext : m.connectionString b with
    | error fault =>
      rw [htext] at h
      obtain rfl := Except.error.inj h
      exact ⟨rfl, rfl⟩
    | ok text => simp [htext] at h

/-- If it does not fail, there are tries to sign in, all with its backend and its string. -/
lemma logins_of_preparation_ok {b : Backend} {text : String}
    (h : m.preparation s = .ok (b, text)) :
    m.logins services s ≠ [] ∧
      ∀ login ∈ m.logins services s, login.backend = b ∧ login.text = text := by
  unfold preparation at h
  unfold logins
  rcases hbackend : s.backendFor m.profile with ⟨outcome, s'⟩
  rw [hbackend] at h
  cases outcome with
  | error e => simp at h
  | ok b' =>
    dsimp only at h ⊢
    cases htext : m.connectionString b' with
    | error fault => simp [htext] at h
    | ok text' =>
      rw [htext] at h
      obtain ⟨rfl, rfl⟩ := Prod.mk.inj (Except.ok.inj h)
      refine ⟨?_, fun login hlogin => ?_⟩
      · rw [Ne, List.map_eq_nil_iff]
        exact RetryPolicy.starts_ne_nil _ _ _ _ _
      · obtain ⟨start, -, rfl⟩ := List.mem_map.mp hlogin
        exact ⟨rfl, rfl⟩

/-- There is no try to sign in just when the preparation fails. -/
lemma logins_eq_nil_iff : m.logins services s = [] ↔ ∃ e, m.preparation s = .error e := by
  constructor
  · intro hnone
    cases hprepared : m.preparation s with
    | error e => exact ⟨e, rfl⟩
    | ok prepared => exact absurd hnone (logins_of_preparation_ok services hprepared).1
  · rintro ⟨e, he⟩
    exact (connect_of_preparation_error services he).2

/-- If the preparation fails, opening fails with its error. -/
lemma openConnection_of_preparation_error {c : Connection} (hc : c.isOpen = false)
    {e : ConnectionError} (h : m.preparation s = .error e) :
    m.openConnection services c s =
      (.error e, { c with state := .failed }, (s.backendFor m.profile).2) :=
  openConnection_of_connect_error hc (connect_of_preparation_error services h).1

/-- Connecting goes the same when its backend was chosen before. -/
lemma connect_backendFor :
    m.connect services (s.backendFor m.profile).2 = m.connect services s := by
  unfold connect
  rw [s.backendFor_backendFor]

/-- Showing the string first changes nothing of an opening. -/
lemma openConnection_displayConnectionString {c : Connection} (hc : c.isOpen = false) :
    m.openConnection services c (m.displayConnectionString s).2 =
      m.openConnection services c s := by
  rw [displayConnectionString_eq]
  unfold openConnection
  rw [connect_backendFor, hc]
  rfl

/-- Whatever the profile, the drivers and what the session remembers:

* the drivers get the calls of the tries to sign in of an opening, and no others;
* the string cannot be shown just when the opening ends, with the same error, without such a try,
  and then there is no backend or no string for it;
* otherwise the opening tries to sign in, always with one string for one backend.  The driver gets
  just that string, and what is shown is the string with the secret of the mode masked;
* to show the string first changes nothing of the opening.

Of any secret, whether it is that of a profile or not, no occurrence is left in a masked text unless
the secret contains an asterisk; and without a secret nothing is masked. -/
theorem display_of_opening (m : ConnectionManager) (services : Services σ τ) (s : Session σ τ)
    {c : Connection} (hc : c.isOpen = false) :
    let shown := (m.displayConnectionString s).1
    let opened := m.openConnection services c s
    let tries := m.logins services s
    (∀ b, opened.2.2.drivers.connectCalls b = s.drivers.connectCalls b ++
      (tries.filter fun login => login.backend == b).flatMap fun login => login.calls services) ∧
    (∀ e, shown = .error e ↔ opened.1 = .error e ∧ tries = []) ∧
    (∀ e, shown = .error e →
      (∃ fault, e = .backend fault) ∧ (s.backendFor m.profile).1 = .error e ∨
        ∃ b fault, (s.backendFor m.profile).1 = .ok b ∧ m.connectionString b = .error fault ∧
          e = .driver fault) ∧
    (∀ masked, shown = .ok masked → ∃ b text, tries ≠ [] ∧
      (∀ login ∈ tries, login.backend = b ∧ login.text = text ∧
        ∀ call ∈ login.calls services, call.connectionString = text) ∧
      Masked (loginFields m.profile).2 text masked) ∧
    m.openConnection services c (m.displayConnectionString s).2 = opened ∧
    (∀ text secret : String, secret ≠ "" →
      secret.toList <:+: (maskSecret text (some secret)).toList → '*' ∈ secret.toList) ∧
    ∀ text, maskSecret text none = text ∧ maskSecret text (some "") = text := by
  intro shown opened tries
  refine ⟨fun b => ?_, fun e => ?_, fun e he => ?_, fun masked hmasked => ?_,
    openConnection_displayConnectionString services hc, fun text secret => mem_of_infix_maskSecret,
    fun text => ⟨rfl, rfl⟩⟩
  · have hadded := (m.signedIn_openConnection services c s).connectCalls b
    rw [hc] at hadded
    exact hadded
  · -- both fail just when the preparation does, and then nobody logs in
    have hshown : shown = .error e ↔ m.preparation s = .error e :=
      m.displayConnectionString_eq_error_iff s
    have htries : tries = [] ↔ ∃ e, m.preparation s = .error e := logins_eq_nil_iff services
    rw [hshown, htries]
    constructor
    · intro he
      have hopened := openConnection_of_preparation_error services hc he
      exact ⟨congrArg Prod.fst hopened, e, he⟩
    · rintro ⟨hopened, e', he'⟩
      have hfails := openConnection_of_preparation_error services hc he'
      rw [he', ← Except.error.inj ((congrArg Prod.fst hfails).symm.trans hopened)]
  · rcases (m.preparation_eq_error_iff s).mp ((m.displayConnectionString_eq_error_iff s).mp he) with
      hbackend | htext
    · exact .inl ⟨(eq_backend_of_backendFor (Prod.ext hbackend rfl)).1, hbackend⟩
    · exact .inr htext
  · obtain ⟨b, text, hprepared, hmasked⟩ := (m.displayConnectionString_eq_ok_iff s).mp hmasked
    obtain ⟨htries, hsame⟩ := logins_of_preparation_ok services hprepared
    refine ⟨b, text, htries, fun login hlogin => ?_, hmasked⟩
    obtain ⟨hbackend, htext⟩ := hsame login hlogin
    refine ⟨hbackend, htext, fun call hcall => ?_⟩
    rw [(login.of_mem_calls services hcall).1, htext]

/-- A manager for a service principal whose secret stands in the name of the database as well, where
two of its occurrences overlap: the first one of these is masked, and the letter behind it stays. -/
theorem display_of_principal :
    let p := { Profile.new "warehouse.example" "aaa" "dbo" with
      clientId := some "app", clientSecret := some "aa" }
    let m : ConnectionManager := ⟨p, "loader"⟩
    let c : Connection := .new "master"
    let target : ConnectionTarget := .ofProfile p "loader" (some "app") (some "aa")
    let text (t : ConnectionTarget) := String.ofList (renderFields (Backend.odbc.fields t))
    let masked := text { target with database := "***a", pwd := some "***" }
    c.isOpen = false ∧
      (m.displayConnectionString acceptingSession).1 = .ok masked ∧
      ((m.openConnection bareServices c acceptingSession).2.2.drivers.connectCalls .odbc).map
        (·.connectionString) = [text target] ∧
      Masked (some "aa") (text target) masked := by
  intro p m c target text masked
  have hclosed : c.isOpen = false := rfl
  have hmask : maskSecret (text target) (some "aa") = masked := by
    have hchars : substituteFrom "aa".toList mask 0 (renderFields (Backend.odbc.fields target)) =
        renderFields (Backend.odbc.fields
          { target with database := "***a", pwd := some "***" }) := by
      decide +kernel
    have htext : (text target).toList = renderFields (Backend.odbc.fields target) :=
      String.toList_ofList
    rw [maskSecret, if_neg (by decide), htext, hchars]
  have hshown : (m.displayConnectionString acceptingSession).1 = .ok masked := by
    rw [← hmask]
    rfl
  have hgot : ((m.openConnection bareServices c acceptingSession).2.2.drivers.connectCalls
      .odbc).map (·.connectionString) = [text target] := rfl
  obtain ⟨hadded, -, -, hmasks, -⟩ := display_of_opening m bareServices acceptingSession hclosed
  obtain ⟨b, sent, -, hsent, hmasked⟩ := hmasks masked hshown
  -- the only call was made with the string that the masked text comes from
  have hsame : text target = sent := by
    have hfirst : acceptingSession.drivers.connectCalls .odbc = [] := rfl
    rw [hadded, hfirst, List.nil_append] at hgot
    obtain ⟨call, hcall, hstring⟩ := List.mem_map.mp (hgot ▸ List.mem_singleton_self (text target))
    obtain ⟨login, hlogin, hmade⟩ := List.mem_flatMap.mp hcall
    rw [← hstring, (hsent login (List.mem_filter.mp hlogin).1).2.2 call hmade]
  rw [← hsame] at hmasked
  exact ⟨hclosed, hshown, hgot, hmasked⟩

end ConnectionManager

end WarehouseAccess
