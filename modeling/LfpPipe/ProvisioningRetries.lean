import LfpPipe.ProvisioningAttempts

/-!
# Provisioning again after failures

A further request whose calls are all answered succeeds, leaves its callback
registered and no redirect removed, and writes nothing when it is repeated,
exactly when the state that it starts from is ready. Earlier requests of the
replica leave a ready state ready unless one of them has created the provider
without its application: no later request finds such a provider, nor can it
create another one of that name.
-/

namespace LfpPipe.ProvisioningRetries

open GoText RemotePrograms AuthentikApi IdentityProvisioning ProvisioningAttempts

section

variable {p : Provisioner} {s : Authentik} {alloc : Allocator} {print : PrintTable}

/-- A request all of whose calls are answered. -/
def provision (alloc : Allocator) (print : PrintTable) (p : Provisioner)
    (request : ApplicationRequest) (s : Authentik) : Authentik × Except String ApplicationResult :=
  exec (apply alloc) s (p.provisionApplication print request)

/-- An answered request goes on from the providers that it finds. -/
theorem provision_eq (request : ApplicationRequest) (hlist : s.providers.length ≤ 1000) :
    provision alloc print p request s =
      match providerOf p.routeAppSlug s with
      | some provider => exec (apply alloc) s
          (p.registerCallback print request.callbackURL provider [] >>= p.finish request)
      | none =>
        match providerOf p.sourceAppSlug s with
        | none => (s, .error ("Authentik source application " ++ quote print p.sourceAppSlug ++
            " has no OAuth provider"))
        | some source => exec (apply alloc) s
            (p.createProvider print request.callbackURL source >>= p.finish request) := by
  rw [provision, provisionApplication_eq, exec, apply]
  dsimp only [Except.map]
  rw [find_take_providers hlist]
  cases providerOf p.routeAppSlug s with
  | some provider => rfl
  | none =>
    dsimp only
    rw [exec, apply]
    dsimp only [Except.map]
    rw [find_take_providers hlist]
    cases providerOf p.sourceAppSlug s with
    | none => rfl
    | some source => rfl

/-- A state with the callback on the provider that was read. -/
def withCallback (callbackURL : String) (s : Authentik) (provider : OAuthProvider) : Authentik :=
  if hasCallback callbackURL provider then s
  else
    { s with providers := s.providers.map fun candidate =>
        if candidate.pk == provider.pk then
          { candidate with
            redirectURIs := provider.redirectURIs ++ [callbackRedirect callbackURL] }
        else candidate }

/-- The callback is added to a usable provider. -/
theorem exec_registerCallback {provider : OAuthProvider} (callbackURL : String)
    (created : List String) (htype : provider.clientType = publicClient)
    (hid : provider.clientID ≠ "") (hstored : ∃ stored ∈ s.providers, stored.pk = provider.pk) :
    ∃ ensured, exec (apply alloc) s (p.registerCallback print callbackURL provider created) =
      (withCallback callbackURL s provider, .ok ensured) := by
  rw [Provisioner.registerCallback, if_neg (by simpa using htype), if_neg (by simpa using hid),
    withCallback]
  split
  · exact ⟨_, rfl⟩
  · rw [Program.send_bind, exec, apply]
    cases hfind : s.providers.find? (·.pk == provider.pk) with
    | none =>
      obtain ⟨stored, hmem, hkey⟩ := hstored
      exact absurd (beq_iff_eq.mpr hkey) (List.find?_eq_none.mp hfind stored hmem)
    | some stored => exact ⟨_, rfl⟩

/-- The first page of the groups with a name has one when there is one. -/
theorem any_take_filter {Item : Type} (test : Item → Bool) (count : ℕ) (items : List Item) :
    ((items.filter test).take (count + 1)).any test = items.any test := by
  cases hfilter : items.filter test with
  | nil =>
    symm
    rw [List.take_nil, List.any_nil, List.any_eq_false]
    intro item hitem htest
    have hmem := List.mem_filter.mpr ⟨hitem, htest⟩
    rw [hfilter] at hmem
    cases hmem
  | cons first rest =>
    have hfirst : first ∈ items.filter test := by
      rw [hfilter]
      exact List.mem_cons_self
    obtain ⟨hmem, htest⟩ := List.mem_filter.mp hfirst
    rw [List.take_succ_cons, List.any_cons, htest, Bool.true_or]
    symm
    exact List.any_eq_true.mpr ⟨first, hmem, htest⟩

/-- A state with the group of a request, if it asks for one. -/
def withGroup (alloc : Allocator) (request : ApplicationRequest) (s : Authentik) : Authentik :=
  if trimSpace request.group == "" || s.groups.any (·.name == trimSpace request.group) then s
  else { s with groups := s.groups ++ [⟨alloc.groupPK s.groups, trimSpace request.group⟩] }

/-- A request ends with its group. -/
theorem exec_finish (request : ApplicationRequest) (ensured : OAuthProvider × List String)
    (s : Authentik) :
    ∃ result, exec (apply alloc) s (p.finish request (.ok ensured)) =
      (withGroup alloc request s, .ok result) := by
  obtain ⟨provider, created⟩ := ensured
  rw [Provisioner.finish, withGroup]
  cases hname : trimSpace request.group == "" with
  | true =>
    rw [bne, hname, Bool.not_true, if_neg Bool.false_ne_true]
    exact ⟨_, rfl⟩
  | false =>
    rw [bne, hname, Bool.not_false, if_pos rfl, Bool.false_or, ensureGroup, Program.send_bind,
      Program.call_bind, exec, apply]
    dsimp only
    rw [any_take_filter]
    cases hany : s.groups.any (·.name == trimSpace request.group) with
    | true => exact ⟨_, rfl⟩
    | false =>
      rw [if_neg Bool.false_ne_true, if_neg Bool.false_ne_true, Program.send_bind,
        Program.call_bind, exec, apply, if_neg (by rw [hany]; exact Bool.false_ne_true)]
      exact ⟨_, rfl⟩

/-- Everything that a request asks for is there. -/
structure Settled (p : Provisioner) (request : ApplicationRequest) (s : Authentik) : Prop where
  /-- The provider for routes is usable and has the callback. -/
  routed : ∃ provider, providerOf p.routeAppSlug s = some provider ∧
    provider.clientType = publicClient ∧ provider.clientID ≠ "" ∧
    hasCallback request.callbackURL provider = true
  /-- The group exists, if there is one. -/
  grouped : (trimSpace request.group == "" ||
    s.groups.any (·.name == trimSpace request.group)) = true

/-- With the group it asks for, a request has its group. -/
theorem grouped_withGroup (request : ApplicationRequest) (s : Authentik) :
    (trimSpace request.group == "" ||
      (withGroup alloc request s).groups.any (·.name == trimSpace request.group)) = true := by
  rw [withGroup]
  split
  · rename_i hgroup
    exact hgroup
  · rw [List.any_append, List.any_cons, beq_self_eq_true, Bool.true_or, Bool.or_true, Bool.or_true]

/-- The group of a request changes no provider. -/
theorem providers_withGroup (request : ApplicationRequest) (s : Authentik) :
    (withGroup alloc request s).providers = s.providers := by
  rw [withGroup]
  split <;> rfl

/-- The group that exists is found and not created. -/
theorem sent_finish (request : ApplicationRequest) (ensured : OAuthProvider × List String)
    (h : (trimSpace request.group == "" ||
      s.groups.any (·.name == trimSpace request.group)) = true) :
    (∀ call ∈ sent (apply alloc) s (p.finish request (.ok ensured)), Reads call) ∧
      (exec (apply alloc) s (p.finish request (.ok ensured))).2 =
        .ok (p.result request ensured.1 ensured.2) := by
  obtain ⟨provider, created⟩ := ensured
  rw [Provisioner.finish]
  cases hname : trimSpace request.group == "" with
  | true =>
    rw [bne, hname, Bool.not_true, if_neg Bool.false_ne_true]
    refine ⟨?_, rfl⟩
    intro call hcall
    cases hcall
  | false =>
    rw [hname, Bool.false_or] at h
    rw [bne, hname, Bool.not_false, if_pos rfl, ensureGroup, Program.send_bind, Program.call_bind,
      sent, exec, apply]
    dsimp only
    rw [any_take_filter, if_pos h]
    refine ⟨?_, rfl⟩
    intro call hcall
    rw [List.mem_singleton.mp hcall]
    trivial

/-- A request for what is there writes nothing and reports nothing created. -/
theorem provision_settled {request : ApplicationRequest} (h : Settled p request s)
    (hlist : s.providers.length ≤ 1000) :
    (∀ call ∈ sent (apply alloc) s (p.provisionApplication print request), Reads call) ∧
      ∃ result, (provision alloc print p request s).2 = .ok result ∧
        result.createdObjects = [] := by
  obtain ⟨provider, hroute, htype, hid, hcallback⟩ := h.routed
  have hregister : (p.registerCallback print request.callbackURL provider [] >>=
      p.finish request) = p.finish request (.ok (provider, [])) := by
    rw [Provisioner.registerCallback, if_neg (by simpa using htype), if_neg (by simpa using hid),
      if_pos hcallback]
    rfl
  obtain ⟨hreads, hresult⟩ := @sent_finish p s alloc request (provider, []) h.grouped
  refine ⟨?_, ?_⟩
  · rw [provisionApplication_eq, sent, apply]
    dsimp only [Except.map]
    rw [find_take_providers hlist, hroute]
    dsimp only
    rw [hregister]
    intro call hcall
    rcases List.mem_cons.mp hcall with rfl | hcall
    · trivial
    · exact hreads call hcall
  · rw [provision_eq request hlist, hroute]
    dsimp only
    rw [hregister]
    exact ⟨_, hresult, rfl⟩

/-- What a further request should do: succeed, leave its callback registered
and every redirect in place, and write nothing when it is repeated. -/
structure Converges (alloc : Allocator) (print : PrintTable) (p : Provisioner)
    (request : ApplicationRequest) (s : Authentik) : Prop where
  /-- The request succeeds. -/
  succeeds : ∃ result, (provision alloc print p request s).2 = .ok result
  /-- The application for routes has the callback, to be compared as it is. -/
  registered : ∃ provider ∈ (provision alloc print p request s).1.providers,
    provider.assignedApplicationSlug = p.routeAppSlug ∧
      hasCallback request.callbackURL provider = true
  /-- No redirect is removed. -/
  kept : ∀ provider ∈ s.providers, ∃ stored ∈ (provision alloc print p request s).1.providers,
    stored.pk = provider.pk ∧ ∀ redirect ∈ provider.redirectURIs, redirect ∈ stored.redirectURIs
  /-- Repeating the request writes nothing. -/
  silent : ∀ call ∈ sent (apply alloc) (provision alloc print p request s).1
    (p.provisionApplication print request), Reads call
  /-- Repeating the request creates nothing. -/
  repeated : ∃ result,
    (provision alloc print p request (provision alloc print p request s).1).2 = .ok result ∧
      result.createdObjects = []

/-- A request that leaves everything it asks for converges. -/
theorem converges_of_settled {request : ApplicationRequest}
    (hsucceeds : ∃ result, (provision alloc print p request s).2 = .ok result)
    (hsettled : Settled p request (provision alloc print p request s).1)
    (hkept : ∀ provider ∈ s.providers,
      ∃ stored ∈ (provision alloc print p request s).1.providers,
        stored.pk = provider.pk ∧
          ∀ redirect ∈ provider.redirectURIs, redirect ∈ stored.redirectURIs)
    (hlist : (provision alloc print p request s).1.providers.length ≤ 1000) :
    Converges alloc print p request s := by
  obtain ⟨hreads, hrepeated⟩ := @provision_settled p _ alloc print request hsettled hlist
  obtain ⟨provider, hroute, -, -, hcallback⟩ := hsettled.routed
  have hassigned : assignedTo p.routeAppSlug provider = true := List.find?_some hroute
  exact ⟨hsucceeds, ⟨provider, List.mem_of_find?_eq_some hroute, beq_iff_eq.mp hassigned,
    hcallback⟩, hkept, hreads, hrepeated⟩

/-- A redirect list that ends with a callback has it. -/
theorem hasCallback_append {callbackURL : String} {provider : OAuthProvider}
    (earlier : List RedirectURI)
    (h : provider.redirectURIs = earlier ++ [callbackRedirect callbackURL]) :
    hasCallback callbackURL provider = true := by
  rw [hasCallback, h, List.any_append, List.any_cons, callbackRedirect]
  dsimp only
  rw [beq_self_eq_true, beq_self_eq_true, Bool.and_self, Bool.true_or, Bool.or_true]

/-- The provider for routes has the callback once it is added. -/
theorem providerOf_withCallback {slug : String} {provider : OAuthProvider} (callbackURL : String)
    (h : providerOf slug s = some provider) :
    ∃ changed, providerOf slug (withCallback callbackURL s provider) = some changed ∧
      outline changed = outline provider ∧ hasCallback callbackURL changed = true := by
  rw [withCallback]
  split
  · rename_i hcallback
    exact ⟨provider, h, rfl, hcallback⟩
  · rw [providerOf] at h ⊢
    rw [List.find?_map]
    have hcomp : (assignedTo slug ∘ fun candidate : OAuthProvider =>
        if candidate.pk == provider.pk then
          { candidate with
            redirectURIs := provider.redirectURIs ++ [callbackRedirect callbackURL] }
        else candidate) = assignedTo slug := by
      funext candidate
      rw [Function.comp_apply]
      split <;> rfl
    rw [hcomp, h, Option.map_some, if_pos (beq_self_eq_true _)]
    exact ⟨_, rfl, rfl, hasCallback_append _ rfl⟩

/-- Adding the callback removes no redirect. -/
theorem kept_withCallback {provider : OAuthProvider} (callbackURL : String)
    (hkeys : (s.providers.map OAuthProvider.pk).Nodup) (hprovider : provider ∈ s.providers) :
    ∀ other ∈ s.providers, ∃ stored ∈ (withCallback callbackURL s provider).providers,
      stored.pk = other.pk ∧ ∀ redirect ∈ other.redirectURIs, redirect ∈ stored.redirectURIs := by
  intro other hother
  rw [withCallback]
  split
  · exact ⟨other, hother, rfl, fun _ h => h⟩
  · refine ⟨_, List.mem_map_of_mem hother, ?_⟩
    by_cases hkey : other.pk = provider.pk
    · have hsame := List.inj_on_of_nodup_map hkeys hother hprovider hkey
      rw [if_pos (beq_iff_eq.mpr hkey), hsame]
      exact ⟨rfl, fun redirect h => List.mem_append_left _ h⟩
    · rw [if_neg (by simpa using hkey)]
      exact ⟨rfl, fun _ h => h⟩

/-- A request that finds a usable provider for routes converges. -/
theorem converges_found {provider : OAuthProvider} (request : ApplicationRequest)
    (hkeys : (s.providers.map OAuthProvider.pk).Nodup) (hlist : s.providers.length ≤ 1000)
    (hroute : providerOf p.routeAppSlug s = some provider)
    (htype : provider.clientType = publicClient) (hid : provider.clientID ≠ "") :
    Converges alloc print p request s := by
  have hprovider : provider ∈ s.providers := List.mem_of_find?_eq_some hroute
  obtain ⟨ensured, hregister⟩ := @exec_registerCallback p s alloc print provider
    request.callbackURL [] htype hid ⟨provider, hprovider, rfl⟩
  obtain ⟨result, hfinish⟩ := @exec_finish p alloc request ensured
    (withCallback request.callbackURL s provider)
  have hprovision : provision alloc print p request s =
      (withGroup alloc request (withCallback request.callbackURL s provider), .ok result) := by
    rw [provision_eq request hlist, hroute]
    dsimp only
    rw [exec_bind, hregister, hfinish]
  obtain ⟨changed, hchanged, hsame, hcallback⟩ :=
    providerOf_withCallback request.callbackURL hroute
  have hlength : (withCallback request.callbackURL s provider).providers.length =
      s.providers.length := by
    rw [withCallback]
    split
    · rfl
    · exact List.length_map _
  refine converges_of_settled ?_ ?_ ?_ ?_
  · rw [hprovision]
    exact ⟨result, rfl⟩
  · rw [hprovision]
    refine ⟨⟨changed, ?_, ?_, ?_, hcallback⟩, grouped_withGroup request _⟩
    · rw [providerOf, providers_withGroup]
      exact hchanged
    · exact (congrArg Outline.clientType hsame).trans htype
    · have hsameID : changed.clientID = provider.clientID := congrArg Outline.clientID hsame
      rw [hsameID]
      exact hid
  · rw [hprovision]
    dsimp only
    rw [providers_withGroup]
    exact kept_withCallback request.callbackURL hkeys hprovider
  · rw [hprovision]
    dsimp only
    rw [providers_withGroup, hlength]
    exact hlist

/-- A request that creates everything converges. -/
theorem converges_missing {source : OAuthProvider} (request : ApplicationRequest)
    (hlist : s.providers.length < 1000) (hroute : providerOf p.routeAppSlug s = none)
    (hsource : providerOf p.sourceAppSlug s = some source) (hname : nameTaken p s = false)
    (hslug : slugTaken p s = false) : Converges alloc print p request s := by
  have hcreate : exec (apply alloc) s (p.createProvider print request.callbackURL source) =
      (withApplication alloc p
        (withProvider s (newProvider alloc p request.callbackURL source s))
        (newProvider alloc p request.callbackURL source s).pk,
        .ok (newProvider alloc p request.callbackURL source s,
          ["oauth_provider", "application"])) := by
    have hregister : p.registerCallback print request.callbackURL
        (newProvider alloc p request.callbackURL source s) ["oauth_provider", "application"] =
        .done (.ok (newProvider alloc p request.callbackURL source s,
          ["oauth_provider", "application"])) := by
      have hid : ((newProvider alloc p request.callbackURL source s).clientID == "") = false :=
        beq_eq_false_iff_ne.mpr p.routeAppSlug_ne
      have hcallback : hasCallback request.callbackURL
          (newProvider alloc p request.callbackURL source s) = true := hasCallback_append [] rfl
      rw [Provisioner.registerCallback, hid, hcallback]
      rfl
    have hslug' : slugTaken p
        (withProvider s (newProvider alloc p request.callbackURL source s)) = false := hslug
    have happly := @apply_createApplication_eq p alloc
      (newProvider alloc p request.callbackURL source s).pk
      (withProvider s (newProvider alloc p request.callbackURL source s))
    rw [hslug', if_neg Bool.false_ne_true] at happly
    rw [Provisioner.createProvider, Program.send_bind, exec, apply_createProvider_eq, hname,
      if_neg Bool.false_ne_true]
    dsimp only
    rw [Provisioner.createApplication, Program.send_bind, exec, happly]
    dsimp only
    rw [hregister, exec]
  obtain ⟨result, hfinish⟩ := @exec_finish p alloc request
    (newProvider alloc p request.callbackURL source s, ["oauth_provider", "application"])
    (withApplication alloc p (withProvider s (newProvider alloc p request.callbackURL source s))
      (newProvider alloc p request.callbackURL source s).pk)
  have hprovision : provision alloc print p request s = (withGroup alloc request
      (withApplication alloc p (withProvider s (newProvider alloc p request.callbackURL source s))
        (newProvider alloc p request.callbackURL source s).pk), .ok result) := by
    rw [provision_eq request (Nat.le_of_lt hlist), hroute, hsource]
    dsimp only
    rw [exec_bind, hcreate, hfinish]
  refine converges_of_settled ?_ ?_ ?_ ?_
  · rw [hprovision]
    exact ⟨result, rfl⟩
  · rw [hprovision]
    refine ⟨⟨{ newProvider alloc p request.callbackURL source s with
      assignedApplicationSlug := p.routeAppSlug }, ?_, rfl, p.routeAppSlug_ne, ?_⟩,
      grouped_withGroup request _⟩
    · rw [providerOf, providers_withGroup]
      exact providerOf_withApplication hroute
    · exact hasCallback_append [] rfl
  · rw [hprovision]
    dsimp only
    rw [providers_withGroup]
    intro provider hprovider
    have hfresh := alloc.providerPK_fresh s.providers provider hprovider
    refine ⟨provider, ?_, rfl, fun _ h => h⟩
    refine List.mem_map.mpr ⟨provider, List.mem_append_left _ hprovider, ?_⟩
    rw [if_neg]
    rw [beq_iff_eq]
    exact hfresh
  · rw [hprovision]
    dsimp only
    rw [providers_withGroup, withApplication, withProvider]
    dsimp only
    rw [List.length_map, List.length_append, List.length_singleton]
    omega

/-- When the short name is in use, a request leaves its provider without the
application. -/
theorem alike_taken (request : ApplicationRequest) (source : OAuthProvider)
    (hname : nameTaken p s = false) (hslug : slugTaken p s = true) :
    Alike (withProvider s (newProvider alloc p request.callbackURL source s))
      (exec (apply alloc) s
        (p.createProvider print request.callbackURL source >>= p.finish request)).1 := by
  obtain ⟨next, hprogram, -, hok⟩ := @createProvider_eq p print request source
  obtain ⟨rest, hrest, hrefines⟩ := @createApplication_eq p print request
    (newProvider alloc p request.callbackURL source s)
  have hslug' : slugTaken p
      (withProvider s (newProvider alloc p request.callbackURL source s)) = true := hslug
  have happly := @apply_createApplication_eq p alloc
    (newProvider alloc p request.callbackURL source s).pk
    (withProvider s (newProvider alloc p request.callbackURL source s))
  rw [hslug', if_pos rfl] at happly
  rw [hprogram, exec, apply_createProvider_eq, hname, if_neg Bool.false_ne_true]
  refine (congrArg (fun program => Alike _ (exec (apply alloc)
    (withProvider s (newProvider alloc p request.callbackURL source s)) program).1)
    (hok (newProvider alloc p request.callbackURL source s))).mpr ?_
  rw [hrest, exec, happly]
  exact alike_exec (hrefines _) _

/-- A request without a usable provider for routes, or one to copy, or a free
name, fails; without a free short name it does not register its callback. -/
theorem not_converges_of_not_ready (request : ApplicationRequest)
    (hlist : s.providers.length ≤ 1000) (h : ¬ Ready p s) :
    ¬ Converges alloc print p request s := by
  intro hconverges
  obtain ⟨result, hresult⟩ := hconverges.succeeds
  have hregistered := hconverges.registered
  rw [provision_eq request hlist] at hresult hregistered
  cases hroute : providerOf p.routeAppSlug s with
  | some provider =>
    rw [hroute] at hresult
    dsimp only at hresult
    rw [Ready, hroute] at h
    dsimp only at h
    rw [Provisioner.registerCallback] at hresult
    by_cases htype : provider.clientType = publicClient
    · have hid : provider.clientID = "" := by
        by_contra hid
        exact h ⟨htype, hid⟩
      rw [if_neg (by simpa using htype), if_pos (beq_iff_eq.mpr hid)] at hresult
      cases hresult
    · rw [if_pos (by simpa using htype)] at hresult
      cases hresult
  | none =>
    rw [hroute] at hresult hregistered
    rw [ready_iff_of_missing hroute] at h
    cases hsource : providerOf p.sourceAppSlug s with
    | none =>
      rw [hsource] at hresult
      cases hresult
    | some source =>
      rw [hsource] at hresult hregistered h
      dsimp only at hresult hregistered
      cases hname : nameTaken p s with
      | true =>
        rw [exec_bind, Provisioner.createProvider, Program.send_bind, exec,
          apply_createProvider_eq, hname, if_pos rfl] at hresult
        dsimp only at hresult
        rw [findProvider_bind, exec, apply] at hresult
        dsimp only [Except.map] at hresult
        rw [find_take_providers hlist, hroute] at hresult
        cases hresult
      | false =>
        have hslug : slugTaken p s = true := by
          by_contra hslug
          exact h ⟨rfl, hname, Bool.eq_false_iff.mpr hslug⟩
        have halike := @alike_taken p s alloc print request source hname hslug
        obtain ⟨provider, hprovider, hassigned, -⟩ := hregistered
        have hnone : providerOf p.routeAppSlug (exec (apply alloc) s
            (p.createProvider print request.callbackURL source >>= p.finish request)).1 = none := by
          rw [← Option.map_eq_none_iff, halike.providerOf, providerOf_withProvider hroute,
            Option.map_none]
        exact List.find?_eq_none.mp hnone provider hprovider (beq_iff_eq.mpr hassigned)

/-- A further request converges exactly when the state is ready. -/
theorem converges_iff_ready (request : ApplicationRequest)
    (hkeys : (s.providers.map OAuthProvider.pk).Nodup) (hlist : s.providers.length ≤ 1000)
    (hroom : nameTaken p s = false → s.providers.length < 1000) :
    Converges alloc print p request s ↔ Ready p s := by
  constructor
  · intro hconverges
    by_contra h
    exact not_converges_of_not_ready request hlist h hconverges
  · intro h
    cases hroute : providerOf p.routeAppSlug s with
    | some provider =>
      rw [Ready, hroute] at h
      exact converges_found request hkeys hlist hroute h.1 h.2
    | none =>
      rw [ready_iff_of_missing hroute, Option.isSome_iff_exists] at h
      obtain ⟨⟨source, hsource⟩, hname, hslug⟩ := h
      exact converges_missing request (hroom hname) hroute hsource hname hslug

/-- Keys of providers are unique, and the list of providers has room for the
one for routes unless it is there. -/
structure Sound (p : Provisioner) (s : Authentik) : Prop where
  /-- Keys are unique. -/
  keys : (s.providers.map OAuthProvider.pk).Nodup
  /-- Lists show all providers, also after one more is created. -/
  room : s.providers.length < 1000 ∨
    s.providers.length ≤ 1000 ∧ ∃ provider ∈ s.providers, provider.name = p.routeAppName

/-- A change of providers that keeps keys and names keeps a state sound. -/
theorem Sound.of_map {t : Authentik} {change : OAuthProvider → OAuthProvider} (h : Sound p s)
    (hproviders : t.providers = s.providers.map change)
    (hpk : ∀ provider, (change provider).pk = provider.pk)
    (hname : ∀ provider, (change provider).name = provider.name) : Sound p t := by
  constructor
  · rw [hproviders, List.map_map]
    have hcomp : OAuthProvider.pk ∘ change = OAuthProvider.pk := funext hpk
    rw [hcomp]
    exact h.keys
  · rw [hproviders, List.length_map]
    rcases h.room with hroom | ⟨hlist, provider, hprovider, hsame⟩
    · exact .inl hroom
    · exact .inr ⟨hlist, change provider, List.mem_map_of_mem hprovider,
        (hname provider).trans hsame⟩

/-- The requests of the provisioner keep a state sound. -/
theorem sound_apply {request : Request} (hrequest : Provisions p request) (h : Sound p s) :
    Sound p (apply alloc s request).1 := by
  cases request <;> try exact hrequest.elim
  case listProviders => exact h
  case findApplications slug => exact h
  case findGroups name => exact h
  case createGroup name =>
    rw [apply]
    split
    · exact h
    · exact ⟨h.keys, h.room⟩
  case updateRedirectURIs pk redirectURIs =>
    rw [apply]
    split
    · exact h
    · refine h.of_map rfl ?_ ?_
      · intro provider
        split <;> rfl
      · intro provider
        split <;> rfl
  case createApplication name slug provider =>
    rw [apply]
    split
    · exact h
    · refine h.of_map rfl ?_ ?_
      · intro provider
        split <;> rfl
      · intro provider
        split <;> rfl
  case createProvider body =>
    rw [apply]
    split
    · exact h
    · rename_i hfree
      have hroom : s.providers.length < 1000 := by
        rcases h.room with hroom | ⟨-, provider, hprovider, hname⟩
        · exact hroom
        · refine absurd (List.any_eq_true.mpr ⟨provider, hprovider, ?_⟩) hfree
          rw [Bool.or_eq_true, beq_iff_eq]
          exact .inl (hname.trans hrequest.symm)
      constructor
      · dsimp only
        rw [List.map_append, List.nodup_append']
        refine ⟨h.keys, List.nodup_singleton _, ?_⟩
        intro key hkey hlast
        obtain ⟨provider, hprovider, rfl⟩ := List.mem_map.mp hkey
        exact alloc.providerPK_fresh s.providers provider hprovider (List.mem_singleton.mp hlast)
      · dsimp only
        rw [List.length_append, List.length_singleton]
        exact .inr ⟨hroom, _, List.mem_append_right _ (List.mem_singleton.mpr rfl), hrequest⟩

/-- An earlier request with the outcomes of its calls; it is cut off when the
outcomes end before it does. -/
abbrev Attempt := ApplicationRequest × List (Outcome String)

/-- What is stored after an earlier request. -/
def attempted (alloc : Allocator) (print : PrintTable) (p : Provisioner) (s : Authentik)
    (attempt : Attempt) : Authentik :=
  (perform (deliver (apply alloc)) attempt.2 s (p.provisionApplication print attempt.1)).1

/-- What is stored after several of them, one after the other. -/
def history (alloc : Allocator) (print : PrintTable) (p : Provisioner) :
    Authentik → List Attempt → Authentik
  | s, [] => s
  | s, attempt :: attempts => history alloc print p (attempted alloc print p s attempt) attempts

/-- No request that found no provider for routes has created one without its
application. -/
def NoOrphan (alloc : Allocator) (print : PrintTable) (p : Provisioner) :
    Authentik → List Attempt → Prop
  | _, [] => True
  | s, attempt :: attempts =>
    (providerOf p.routeAppSlug s = none → orphans attempt.2 = false) ∧
      NoOrphan alloc print p (attempted alloc print p s attempt) attempts

/-- An earlier request keeps a state sound. -/
theorem sound_attempted (attempt : Attempt) (h : Sound p s) :
    Sound p (attempted alloc print p s attempt) := by
  refine perform_state_invariant ?_ (provisionApplication_provisions attempt.1) attempt.2 h
  intro outcome state request hrequest hstate
  cases outcome with
  | answered => exact sound_apply hrequest hstate
  | refused failure => exact hstate
  | lost failure => exact sound_apply hrequest hstate

/-- A sound state shows all providers on the first page. -/
theorem Sound.listed (h : Sound p s) : s.providers.length ≤ 1000 := by
  rcases h.room with hroom | ⟨hlist, -⟩
  · omega
  · exact hlist

/-- A sound state has room for the provider for routes when its name is free. -/
theorem Sound.room_of_free (h : Sound p s) (hname : nameTaken p s = false) :
    s.providers.length < 1000 := by
  rcases h.room with hroom | ⟨-, provider, hprovider, hsame⟩
  · exact hroom
  · have htaken : nameTaken p s = true := by
      refine List.any_eq_true.mpr ⟨provider, hprovider, ?_⟩
      rw [Bool.or_eq_true, beq_iff_eq]
      exact .inl hsame
    rw [hname] at htaken
    cases htaken

/-- After a history a state is sound, and it is ready exactly when it was at
first and no provider was left without its application. -/
theorem ready_history_iff (attempts : List Attempt) (h : Sound p s) :
    Sound p (history alloc print p s attempts) ∧
      (Ready p (history alloc print p s attempts) ↔
        Ready p s ∧ NoOrphan alloc print p s attempts) := by
  induction attempts generalizing s with
  | nil => exact ⟨h, fun hready => ⟨hready, trivial⟩, fun hready => hready.1⟩
  | cons attempt attempts ih =>
    obtain ⟨hsound, hready⟩ := ih (@sound_attempted p s alloc print attempt h)
    refine ⟨hsound, hready.trans ?_⟩
    rw [NoOrphan, ← and_assoc, attempted, ready_attempt_iff attempt.1 attempt.2 h.listed]

/-- After every history of earlier requests, a further request converges
exactly when the first state was ready and no earlier request has created the
provider without its application. -/
theorem provisioning_retry_safe_iff (hkeys : (s.providers.map OAuthProvider.pk).Nodup)
    (hlist : s.providers.length < 1000) (attempts : List Attempt) (request : ApplicationRequest) :
    Converges alloc print p request (history alloc print p s attempts) ↔
      Ready p s ∧ NoOrphan alloc print p s attempts := by
  obtain ⟨hsound, hready⟩ := @ready_history_iff p s alloc print attempts ⟨hkeys, .inl hlist⟩
  rw [converges_iff_ready request hsound.keys hsound.listed hsound.room_of_free, hready]

end

/-- Settings of a first deployment. -/
def firstDeployment : Provisioner where
  sourceAppSlug := "lfp-pipe"
  routeAppSlug := "lfp-pipe-routes"
  routeAppName := "LFP Pipe routes"
  issuerBaseURL := "https://id.example.com"
  routeAppSlug_ne := by decide

/-- Authentik with the provider that is copied, and nothing for routes. -/
def sourceOnly : Authentik where
  users := []
  applications := [⟨"app", "LFP Pipe", "lfp-pipe", some 7⟩]
  entitlements := []
  bindings := []
  providers := [
    { pk := 7
      name := "LFP Pipe"
      authenticationFlow := none
      authorizationFlow := "authorization-flow"
      invalidationFlow := "invalidation-flow"
      propertyMappings := ["openid", "profile"]
      assignedApplicationSlug := "lfp-pipe"
      clientType := "confidential"
      clientID := "lfp-pipe"
      includeClaimsInIDToken := true
      signingKey := none
      redirectURIs := []
      subMode := "hashed_user_id" }]
  groups := []

/-- A request for one route with a group. -/
def chatRequest : ApplicationRequest := ⟨"chat.example.com", "/_lfp/auth/callback", "Chat users"⟩

/-- A request that was cut off after both lookups is repeated with success. -/
theorem provisioning_retry_safe_lookups :
    Converges countingAllocator asciiPrintTable firstDeployment chatRequest
      (history countingAllocator asciiPrintTable firstDeployment sourceOnly
        [(chatRequest, [.answered, .answered])]) := by
  have hkeys : (sourceOnly.providers.map OAuthProvider.pk).Nodup := List.nodup_singleton _
  have hlist : sourceOnly.providers.length < 1000 := by decide
  refine (provisioning_retry_safe_iff hkeys hlist _ chatRequest).mpr ?_
  exact ⟨⟨rfl, rfl, rfl⟩, fun _ => rfl, trivial⟩

/-- A request that was cut off between the creation of the provider and that of
the application makes every later request fail. -/
theorem provisioning_orphan_blocks_retry :
    ¬ Converges countingAllocator asciiPrintTable firstDeployment chatRequest
      (history countingAllocator asciiPrintTable firstDeployment sourceOnly
        [(chatRequest, [.answered, .answered, .answered])]) := by
  intro h
  obtain ⟨result, hresult⟩ := h.succeeds
  have hfails : (provision countingAllocator asciiPrintTable firstDeployment chatRequest
      (history countingAllocator asciiPrintTable firstDeployment sourceOnly
        [(chatRequest, [.answered, .answered, .answered])])).2 = .error notUnique := rfl
  rw [hfails] at hresult
  cases hresult

end LfpPipe.ProvisioningRetries
