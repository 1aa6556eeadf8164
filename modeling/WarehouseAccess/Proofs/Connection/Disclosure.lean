import WarehouseAccess.Proofs.Connection.Display

/-!
# What connection strings disclose

A profile can hold more about who signs in than its mode has use for: the password of one user
beside the secret of an application, say.  `Profile.sentIdentities` lists the fields of that kind
that connection strings for the profile name.  Profiles that differ only in the others are not told
apart by a connection string, which is a statement about two openings and not about one;
`ConnectionManager.openings_of_sendsAlike` makes it.
-/

namespace WarehouseAccess

variable {σ τ : Type}

/-- The fields that say who signs in, and prove it. -/
def ProfileField.identities : List ProfileField :=
  [.uid, .pwd, .clientId, .clientSecret, .accessToken]

namespace Profile

/-- Of these, the ones that the connection strings for the profile name: integrated login needs none
of them, and otherwise it is a matter of the mode. -/
def sentIdentities (p : Profile) : List ProfileField :=
  if p.windowsLogin then []
  else
    match p.authentication with
    | .activeDirectoryPassword => [.uid, .pwd]
    | .activeDirectoryServicePrincipal => [.clientId, .clientSecret]
    | .activeDirectoryInteractive => [.uid]
    | _ => []

/-- The profiles differ at most in fields about who signs in that connection strings do not name. -/
def SendsAlike (p q : Profile) : Prop :=
  ∀ f, (f ∈ ProfileField.identities → f ∈ p.sentIdentities) → p.get f = q.get f

namespace SendsAlike

variable {p q : Profile} (h : p.SendsAlike q)

include h

/-- All other fields are the same. -/
lemma get_eq {f : ProfileField} (hf : f ∉ ProfileField.identities) : p.get f = q.get f :=
  h f fun hmem => absurd hmem hf

/-- The user and the secret that the mode takes are the same, as far as they are sent. -/
lemma loginFields_eq (hflag : p.windowsLogin = false) :
    (p.authentication.needsLoginHint = true → (loginFields p).1 = (loginFields q).1) ∧
      (p.authentication.needsSecret = true → (loginFields p).2 = (loginFields q).2) := by
  have hmode : p.authentication = q.authentication := h.get_eq (f := .authentication) (by decide)
  have hsent (f : ProfileField) (hf : f ∈ p.sentIdentities) : p.get f = q.get f := h f fun _ => hf
  unfold sentIdentities at hsent
  rw [hflag] at hsent
  unfold loginFields
  rw [← hmode]
  cases hcase : p.authentication with
  | activeDirectoryPassword =>
    rw [hcase] at hsent
    exact ⟨fun _ => hsent .uid (by decide), fun _ => hsent .pwd (by decide)⟩
  | activeDirectoryServicePrincipal =>
    rw [hcase] at hsent
    exact ⟨fun _ => hsent .clientId (by decide), fun _ => hsent .clientSecret (by decide)⟩
  | activeDirectoryInteractive =>
    rw [hcase] at hsent
    exact ⟨fun _ => hsent .uid (by decide), nofun⟩
  | _ => exact ⟨nofun, nofun⟩

end SendsAlike

end Profile

/-- A connection string does not depend on a user or a secret that is not sent. -/
lemma ConnectionTarget.connectionString_congr {t : ConnectionTarget} {uid pwd : Option String}
    (hlogin : t.windowsLogin = false →
      (t.authentication.needsLoginHint = true → t.uid = uid) ∧
        (t.authentication.needsSecret = true → t.pwd = pwd)) (b : Backend) :
    b.connectionString { t with uid, pwd } = b.connectionString t := by
  have hfields (trustedKey : String) (braced : Bool) :
      ({ t with uid, pwd } : ConnectionTarget).loginFields trustedKey braced =
        t.loginFields trustedKey braced := by
    unfold loginFields
    dsimp only
    cases hflag : t.windowsLogin with
    | true => rfl
    | false =>
      obtain ⟨huser, hsecret⟩ := hlogin hflag
      have huid : (if t.authentication.needsLoginHint then uid else none) =
          if t.authentication.needsLoginHint then t.uid else none :=
        ite_congr rfl (fun hneeded => (huser hneeded).symm) fun _ => rfl
      have hpwd : (if t.authentication.needsSecret then pwd else none) =
          if t.authentication.needsSecret then t.pwd else none :=
        ite_congr rfl (fun hneeded => (hsecret hneeded).symm) fun _ => rfl
      rw [huid, hpwd]
  have hall : b.fields { t with uid, pwd } = b.fields t := by
    cases b with
    | native =>
      simp only [Backend.fields, nativeFields, hfields]
      rfl
    | odbc =>
      simp only [Backend.fields, odbcFields, hfields]
      rfl
  unfold Backend.connectionString
  rw [hall]
  rfl

namespace ConnectionManager

/-- Every call to connect of an opening is made with the manager's connection string for the backend
whose driver gets it. -/
lemma connectCalls_openConnection (m : ConnectionManager) (services : Services σ τ) (c : Connection)
    (s : Session σ τ) (b : Backend) :
    ∃ calls, (m.openConnection services c s).2.2.drivers.connectCalls b =
        s.drivers.connectCalls b ++ calls ∧
      ∀ call ∈ calls, m.connectionString b = .ok call.connectionString := by
  refine ⟨_, (m.signedIn_openConnection services c s).connectCalls b, fun call hcall => ?_⟩
  obtain ⟨login, hlogin, hmade⟩ := List.mem_flatMap.mp hcall
  obtain ⟨hmem, hbackend⟩ := List.mem_filter.mp hlogin
  obtain rfl : login.backend = b := by simpa using hbackend
  have hmine : login ∈ m.logins services s := by
    split_ifs at hmem
    · simp at hmem
    · exact hmem
  rw [(login.of_mem_calls services hmade).1]
  exact (of_mem_logins hmine).2

section Alike

variable {p q : Profile} (h : p.SendsAlike q) (applicationName : String)

include h

/-- The connection strings are the same. -/
lemma connectionString_eq_of_sendsAlike (b : Backend) :
    (⟨p, applicationName⟩ : ConnectionManager).connectionString b =
      (⟨q, applicationName⟩ : ConnectionManager).connectionString b := by
  have hhost : p.host = q.host := h.get_eq (f := .host) (by decide)
  have hdatabase : p.database = q.database := h.get_eq (f := .database) (by decide)
  have hmode : p.authentication = q.authentication := h.get_eq (f := .authentication) (by decide)
  have hencrypt : p.encrypt = q.encrypt := h.get_eq (f := .encrypt) (by decide)
  have htrust : p.trustCert = q.trustCert := h.get_eq (f := .trustCert) (by decide)
  have htrace : p.traceFlag = q.traceFlag := h.get_eq (f := .traceFlag) (by decide)
  have hdriver : p.driver = q.driver := h.get_eq (f := .driver) (by decide)
  have hflag : p.windowsLogin = q.windowsLogin := h.get_eq (f := .windowsLogin) (by decide)
  have htarget : { ConnectionTarget.ofProfile p applicationName (loginFields p).1 (loginFields p).2
      with uid := (loginFields q).1, pwd := (loginFields q).2 } =
        ConnectionTarget.ofProfile q applicationName (loginFields q).1 (loginFields q).2 := by
    simp only [ConnectionTarget.ofProfile, hhost, hdatabase, hmode, hencrypt, htrust, htrace,
      hdriver, hflag]
  have hother := ConnectionTarget.connectionString_congr
    (t := .ofProfile p applicationName (loginFields p).1 (loginFields p).2)
    (fun hwindows => h.loginFields_eq hwindows) b
  rw [htarget] at hother
  exact hother.symm

/-- The choice of a backend is the same. -/
lemma backendFor_eq_of_sendsAlike (s : Session σ τ) : s.backendFor p = s.backendFor q := by
  have hpreference : p.driverBackend = q.driverBackend := h.get_eq (f := .driverBackend) (by decide)
  have hpooling : p.pooling = q.pooling := h.get_eq (f := .pooling) (by decide)
  unfold Session.backendFor
  rw [hpreference, hpooling]

/-- So the preparations of openings are the same. -/
lemma preparation_eq_of_sendsAlike (s : Session σ τ) :
    (⟨p, applicationName⟩ : ConnectionManager).preparation s =
      (⟨q, applicationName⟩ : ConnectionManager).preparation s := by
  unfold preparation
  dsimp only
  rw [backendFor_eq_of_sendsAlike h s]
  cases (s.backendFor q).1 with
  | error e => rfl
  | ok b =>
    dsimp only
    rw [connectionString_eq_of_sendsAlike h applicationName b]

/-- If the preparation fails, the openings are the same altogether. -/
lemma openConnection_eq_of_sendsAlike (services : Services σ τ) (c : Connection)
    {s : Session σ τ} {e : ConnectionError}
    (he : (⟨p, applicationName⟩ : ConnectionManager).preparation s = .error e) :
    (⟨p, applicationName⟩ : ConnectionManager).openConnection services c s =
      (⟨q, applicationName⟩ : ConnectionManager).openConnection services c s := by
  have he' := he
  rw [preparation_eq_of_sendsAlike h] at he'
  cases hopen : c.isOpen with
  | true => rw [openConnection_of_isOpen hopen, openConnection_of_isOpen hopen]
  | false =>
    rw [openConnection_of_preparation_error services hopen he,
      openConnection_of_preparation_error services hopen he']
    dsimp only
    rw [backendFor_eq_of_sendsAlike h s]

end Alike

/-- Two managers whose profiles differ only in fields about who signs in that the mode does not
use: in the mode of a user's password all but that user and password, in the mode of a service
principal all but the application and its secret, in the interactive mode all but the user, and
otherwise, and for integrated login, all of them.

For either backend both have the same connection string, or fail to write one for the same reason,
and every call to connect that an opening by either of them makes, whatever it finds and whoever it
asks, is made with that string.  Where one of them does not get as far as a try to sign in, neither
does the other, and then their openings are the same altogether. -/
theorem openings_of_sendsAlike {p q : Profile} (h : p.SendsAlike q) (applicationName : String) :
    let m : ConnectionManager := ⟨p, applicationName⟩
    let m' : ConnectionManager := ⟨q, applicationName⟩
    (∀ b, m.connectionString b = m'.connectionString b) ∧
    (∀ opener ∈ [m, m'], ∀ (services : Services σ τ) (c : Connection) (s : Session σ τ)
      (b : Backend), ∃ calls,
        (opener.openConnection services c s).2.2.drivers.connectCalls b =
          s.drivers.connectCalls b ++ calls ∧
        ∀ call ∈ calls, m.connectionString b = .ok call.connectionString) ∧
    ∀ (services : Services σ τ) (c : Connection) (s : Session σ τ),
      (m.logins services s = [] ↔ m'.logins services s = []) ∧
      (m.logins services s = [] →
        m.openConnection services c s = m'.openConnection services c s) := by
  intro m m'
  have hstring := connectionString_eq_of_sendsAlike h applicationName
  refine ⟨hstring, fun opener hopener services c s b => ?_, fun services c s => ?_⟩
  · obtain ⟨calls, hadded, hmade⟩ := opener.connectCalls_openConnection services c s b
    refine ⟨calls, hadded, fun call hcall => ?_⟩
    have hmine := hmade call hcall
    simp only [List.mem_cons, List.not_mem_nil, or_false] at hopener
    rcases hopener with rfl | rfl
    · exact hmine
    · exact (hstring b).trans hmine
  · have hsame := preparation_eq_of_sendsAlike h applicationName s
    refine ⟨?_, fun hnone => ?_⟩
    · rw [logins_eq_nil_iff, logins_eq_nil_iff, hsame]
    · obtain ⟨e, he⟩ := (logins_eq_nil_iff services).mp hnone
      exact openConnection_eq_of_sendsAlike h applicationName services c he

/-- Two profiles for one service principal, of which one holds a user, the user's password and a
token besides: both openings make a call, and the calls are made with the same string. -/
theorem openings_of_principals :
    let p := { Profile.new "warehouse.example" "sales" "dbo" with
      clientId := some "app", clientSecret := some "secret" }
    let q := { p with uid := some "user", pwd := some "password", accessToken := some "token" }
    let calls (r : Profile) := ((⟨r, "loader"⟩ : ConnectionManager).openConnection bareServices
      (.new "master") acceptingSession).2.2.drivers.connectCalls .odbc
    p.SendsAlike q ∧ p ≠ q ∧ ∃ text : String,
      (calls p).map (·.connectionString) = [text] ∧
      (calls q).map (·.connectionString) = [text] := by
  intro p q calls
  have halike : p.SendsAlike q := by
    intro f hf
    cases f with
    | uid | pwd | accessToken => exact absurd (hf (by decide)) (by decide)
    | _ => rfl
  obtain ⟨-, hsent, -⟩ := @openings_of_sendsAlike Unit Unit p q halike "loader"
  have hfirst : acceptingSession.drivers.connectCalls .odbc = [] := rfl
  obtain ⟨one, hone, hmade⟩ := hsent ⟨p, "loader"⟩ (by simp) bareServices (.new "master")
    acceptingSession .odbc
  obtain ⟨other, hother, hmade'⟩ := hsent ⟨q, "loader"⟩ (by simp) bareServices (.new "master")
    acceptingSession .odbc
  rw [hfirst, List.nil_append] at hone hother
  -- each opens with one call, and the strings of the two calls are the same
  obtain ⟨call, hcall⟩ : ∃ call, calls p = [call] := ⟨_, rfl⟩
  obtain ⟨call', hcall'⟩ : ∃ call, calls q = [call] := ⟨_, rfl⟩
  have hmem : call ∈ calls p := by
    rw [hcall]
    exact List.mem_singleton_self call
  have hmem' : call' ∈ calls q := by
    rw [hcall']
    exact List.mem_singleton_self call'
  have hstring := hmade call (by rw [← hone]; exact hmem)
  have hstring' := hmade' call' (by rw [← hother]; exact hmem')
  refine ⟨halike, by decide, call.connectionString, by rw [hcall]; rfl, ?_⟩
  rw [hcall', Except.ok.inj (hstring.symm.trans hstring')]
  rfl

end ConnectionManager

end WarehouseAccess
