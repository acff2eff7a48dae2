import LfpPipe.IdentityProvisioning

/-!
# What one provisioning request leaves behind

A request may be cut off after any of its calls, and each call may be refused
or lose its answer. What it leaves behind is told by the outlines of the
providers and by the applications: either these are as they were, or the
provider for routes was created, with its application or without. A state is
ready when the next request can succeed, and a provider that was left without
its application takes that away for good.
-/

namespace LfpPipe.ProvisioningAttempts

open GoText RemotePrograms AuthentikApi IdentityProvisioning

/-- What lookups and checks read of a provider. -/
structure Outline where
  /-- Its name. -/
  name : String
  /-- Short name of its application. -/
  slug : String
  /-- Kind of client. -/
  clientType : String
  /-- Client identifier. -/
  clientID : String
  deriving DecidableEq, Repr

/-- The outline of a provider. -/
def outline (provider : OAuthProvider) : Outline :=
  ⟨provider.name, provider.assignedApplicationSlug, provider.clientType, provider.clientID⟩

/-- Two states with the same outlines of providers and the same applications. -/
structure Alike (s t : Authentik) : Prop where
  /-- The outlines are the same. -/
  outlines : t.providers.map outline = s.providers.map outline
  /-- The applications are the same. -/
  applications : t.applications = s.applications

/-- The provider of an application. -/
def providerOf (slug : String) (s : Authentik) : Option OAuthProvider :=
  s.providers.find? (assignedTo slug)

/-- A provider with the name or the client identifier of the one for routes exists. -/
def nameTaken (p : Provisioner) (s : Authentik) : Bool :=
  s.providers.any fun provider =>
    provider.name == p.routeAppName || provider.clientID == p.routeAppSlug

/-- The short name of the application for routes is in use. -/
def slugTaken (p : Provisioner) (s : Authentik) : Bool :=
  s.applications.any (·.slug == p.routeAppSlug)

/-- The next request can succeed: the provider for routes is a public client
with an identifier, or nothing of it exists and there is one to copy. -/
def Ready (p : Provisioner) (s : Authentik) : Prop :=
  match providerOf p.routeAppSlug s with
  | some provider => provider.clientType = publicClient ∧ provider.clientID ≠ ""
  | none => (providerOf p.sourceAppSlug s).isSome = true ∧ nameTaken p s = false ∧
      slugTaken p s = false

section

variable {p : Provisioner} {s t u : Authentik}

/-- States are like themselves. -/
theorem Alike.refl (s : Authentik) : Alike s s := ⟨rfl, rfl⟩

/-- Likeness is passed on. -/
theorem Alike.trans (hst : Alike s t) (htu : Alike t u) : Alike s u :=
  ⟨htu.outlines.trans hst.outlines, htu.applications.trans hst.applications⟩

/-- The outline of the provider of an application. -/
theorem map_outline_providerOf (slug : String) (s : Authentik) :
    (providerOf slug s).map outline =
      (s.providers.map outline).find? fun outline => outline.slug == slug := by
  rw [List.find?_map]
  rfl

/-- States that are alike have alike providers of applications. -/
theorem Alike.providerOf (h : Alike s t) (slug : String) :
    (providerOf slug t).map outline = (ProvisioningAttempts.providerOf slug s).map outline := by
  rw [map_outline_providerOf, map_outline_providerOf, h.outlines]

/-- States that are alike have the same names in use. -/
theorem Alike.nameTaken (h : Alike s t) : nameTaken p t = ProvisioningAttempts.nameTaken p s := by
  have hmap : ∀ state : Authentik, ProvisioningAttempts.nameTaken p state =
      (state.providers.map outline).any fun outline =>
        outline.name == p.routeAppName || outline.clientID == p.routeAppSlug := by
    intro state
    rw [List.any_map]
    rfl
  rw [hmap, hmap, h.outlines]

/-- States that are alike are ready alike. -/
theorem Alike.ready (h : Alike s t) : Ready p t ↔ Ready p s := by
  have hroute := h.providerOf p.routeAppSlug
  have hsource : (ProvisioningAttempts.providerOf p.sourceAppSlug t).isSome =
      (ProvisioningAttempts.providerOf p.sourceAppSlug s).isSome := by
    rw [← Option.isSome_map, h.providerOf, Option.isSome_map]
  have hslug : slugTaken p t = slugTaken p s := by
    rw [slugTaken, slugTaken, h.applications]
  rw [Ready, Ready, h.nameTaken, hsource, hslug]
  cases hs : ProvisioningAttempts.providerOf p.routeAppSlug s with
  | none =>
    rw [hs, Option.map_none, Option.map_eq_none_iff] at hroute
    rw [hroute]
  | some provider =>
    rw [hs, Option.map_some, Option.map_eq_some_iff] at hroute
    obtain ⟨other, hother, hsame⟩ := hroute
    rw [hother]
    have htype : other.clientType = provider.clientType := congrArg Outline.clientType hsame
    have hid : other.clientID = provider.clientID := congrArg Outline.clientID hsame
    dsimp only
    rw [htype, hid]

variable {alloc : Allocator}

/-- Refining requests leave a state alike. -/
theorem alike_apply {request : Request} (h : Refines request) :
    Alike s (apply alloc s request).1 := by
  cases request <;> try exact h.elim
  case listProviders => exact Alike.refl s
  case findApplications slug => exact Alike.refl s
  case findGroups name => exact Alike.refl s
  case createGroup name =>
    rw [apply]
    split
    · exact Alike.refl s
    · exact ⟨rfl, rfl⟩
  case updateRedirectURIs pk redirectURIs =>
    rw [apply]
    split
    · exact Alike.refl s
    · refine ⟨?_, rfl⟩
      dsimp only
      rw [List.map_map]
      refine List.map_congr_left fun provider _ => ?_
      rw [Function.comp_apply]
      split <;> rfl

/-- So does a program of refining requests, wherever it is cut off. -/
theorem alike_perform {Result : Type} {program : Api Result} (h : program.SendsOnly Refines)
    (outcomes : List (Outcome String)) (s : Authentik) :
    Alike s (perform (deliver (apply alloc)) outcomes s program).1 := by
  refine @perform_state_invariant _ _ _ _ _ (deliver (apply alloc)) Refines (Alike s) ?_ program h
    outcomes s (Alike.refl s)
  intro outcome state request hrequest hstate
  cases outcome with
  | answered => exact hstate.trans (alike_apply hrequest)
  | refused failure => exact hstate
  | lost failure => exact hstate.trans (alike_apply hrequest)

/-- So does such a program that is run to its end. -/
theorem alike_exec {Result : Type} {program : Api Result} (h : program.SendsOnly Refines)
    (s : Authentik) : Alike s (exec (apply alloc) s program).1 := by
  refine @exec_invariant _ _ _ _ (apply alloc) Refines (Alike s) ?_ program h s (Alike.refl s)
  intro state request hrequest hstate
  exact hstate.trans (alike_apply hrequest)

variable {print : PrintTable}

/-- A request asks for the provider for routes, and for the one to copy when
there is none. -/
theorem provisionApplication_eq (request : ApplicationRequest) :
    p.provisionApplication print request = .call .listProviders fun answer =>
      match answer.map fun providers => providers.find? (assignedTo p.routeAppSlug) with
      | .error message => .done (.error message)
      | .ok (some provider) =>
        p.registerCallback print request.callbackURL provider [] >>= p.finish request
      | .ok none => .call .listProviders fun answer =>
        match answer.map fun providers => providers.find? (assignedTo p.sourceAppSlug) with
        | .error message => .done (.error message)
        | .ok none => .done (.error ("Authentik source application " ++
            quote print p.sourceAppSlug ++ " has no OAuth provider"))
        | .ok (some source) =>
          p.createProvider print request.callbackURL source >>= p.finish request := by
  rw [Provisioner.provisionApplication, Provisioner.ensureRouteApplication, Program.bind_assoc,
    findProvider_bind]
  refine congrArg (Program.call Request.listProviders) (funext fun answer => ?_)
  generalize answer.map (fun providers => providers.find? (assignedTo p.routeAppSlug)) = found
  cases found with
  | error message => rfl
  | ok found =>
    cases found with
    | some provider => rfl
    | none =>
      dsimp only
      rw [Program.bind_assoc, findProvider_bind]
      refine congrArg (Program.call Request.listProviders) (funext fun answer => ?_)
      generalize answer.map (fun providers => providers.find? (assignedTo p.sourceAppSlug)) = found
      cases found with
      | error message => rfl
      | ok found =>
        cases found with
        | none => rfl
        | some source => rfl

/-- Adding the callback and the group leaves a state alike. -/
theorem alike_register (outcomes : List (Outcome String)) (s : Authentik)
    (request : ApplicationRequest) (provider : OAuthProvider) (created : List String) :
    Alike s (perform (deliver (apply alloc)) outcomes s
      (p.registerCallback print request.callbackURL provider created >>= p.finish request)).1 :=
  alike_perform (Program.sendsOnly_bind (registerCallback_refines _ _ _) (finish_refines request))
    outcomes s

/-- All providers are on the first page. -/
theorem find_take_providers {slug : String} (h : s.providers.length ≤ 1000) :
    (s.providers.take 1000).find? (assignedTo slug) = providerOf slug s := by
  rw [List.take_of_length_le h, providerOf]

/-- A request that finds the provider for routes leaves a state alike. -/
theorem alike_attempt_found {provider : OAuthProvider} (request : ApplicationRequest)
    (outcomes : List (Outcome String)) (hlist : s.providers.length ≤ 1000)
    (hroute : providerOf p.routeAppSlug s = some provider) :
    Alike s (perform (deliver (apply alloc)) outcomes s
      (p.provisionApplication print request)).1 := by
  rw [provisionApplication_eq]
  cases outcomes with
  | nil => exact Alike.refl s
  | cons outcome outcomes =>
    cases outcome with
    | refused failure =>
      rw [perform, deliver]
      dsimp only [Except.map]
      rw [perform_done]
      exact Alike.refl s
    | lost failure =>
      rw [perform, deliver]
      dsimp only [Except.map, apply]
      rw [perform_done]
      exact Alike.refl s
    | answered =>
      rw [perform, deliver]
      dsimp only [Except.map, apply]
      rw [find_take_providers hlist, hroute]
      exact alike_register outcomes s request provider []

/-- The provider that a request creates. -/
def newProvider (alloc : Allocator) (p : Provisioner) (callbackURL : String)
    (source : OAuthProvider) (s : Authentik) : OAuthProvider :=
  { p.providerBody source callbackURL with
    pk := alloc.providerPK s.providers
    assignedApplicationSlug := "" }

/-- A state with one provider more. -/
def withProvider (s : Authentik) (provider : OAuthProvider) : Authentik :=
  { s with providers := s.providers ++ [provider] }

/-- A state with the application for routes on a provider. -/
def withApplication (alloc : Allocator) (p : Provisioner) (s : Authentik) (pk : ℤ) : Authentik :=
  { s with
    applications := s.applications ++
      [⟨alloc.applicationPK s.applications, p.routeAppName, p.routeAppSlug, some pk⟩]
    providers := s.providers.map fun candidate =>
      if candidate.pk == pk then { candidate with assignedApplicationSlug := p.routeAppSlug }
      else candidate }

/-- How Authentik answers the creation of the provider. -/
theorem apply_createProvider_eq (callbackURL : String) (source : OAuthProvider) (s : Authentik) :
    apply alloc s (.createProvider (p.providerBody source callbackURL)) =
      if nameTaken p s then (s, .error notUnique)
      else (withProvider s (newProvider alloc p callbackURL source s),
        .ok (newProvider alloc p callbackURL source s)) := rfl

/-- How Authentik answers the creation of the application. -/
theorem apply_createApplication_eq (pk : ℤ) (s : Authentik) :
    apply alloc s (.createApplication p.routeAppName p.routeAppSlug pk) =
      if slugTaken p s then (s, .error notUnique)
      else (withApplication alloc p s pk,
        .ok ⟨alloc.applicationPK s.applications, p.routeAppName, p.routeAppSlug, some pk⟩) := rfl

/-- A new provider belongs to no application. -/
theorem providerOf_withProvider {callbackURL : String} {source : OAuthProvider}
    (h : providerOf p.routeAppSlug s = none) :
    providerOf p.routeAppSlug (withProvider s (newProvider alloc p callbackURL source s)) =
      none := by
  have hnew : assignedTo p.routeAppSlug (newProvider alloc p callbackURL source s) = false :=
    beq_eq_false_iff_ne.mpr fun hempty => p.routeAppSlug_ne hempty.symm
  rw [providerOf, withProvider, List.find?_append, ← providerOf, h, List.find?_cons, hnew]
  rfl

/-- With its application the new provider is the one for routes. -/
theorem providerOf_withApplication {callbackURL : String} {source : OAuthProvider}
    (h : providerOf p.routeAppSlug s = none) :
    providerOf p.routeAppSlug (withApplication alloc p
        (withProvider s (newProvider alloc p callbackURL source s))
        (newProvider alloc p callbackURL source s).pk) =
      some { newProvider alloc p callbackURL source s with
        assignedApplicationSlug := p.routeAppSlug } := by
  have hold : (s.providers.map fun candidate =>
      if candidate.pk == (newProvider alloc p callbackURL source s).pk then
        { candidate with assignedApplicationSlug := p.routeAppSlug }
      else candidate) = s.providers := by
    refine (List.map_congr_left fun provider hprovider => ?_).trans (List.map_id' s.providers)
    rw [if_neg]
    rw [beq_iff_eq]
    exact alloc.providerPK_fresh s.providers provider hprovider
  have hnew : assignedTo p.routeAppSlug { newProvider alloc p callbackURL source s with
      assignedApplicationSlug := p.routeAppSlug } = true := beq_self_eq_true _
  rw [providerOf, withApplication, withProvider, List.map_append, hold, List.find?_append,
    ← providerOf, h, List.map_singleton, if_pos (beq_self_eq_true _), List.find?_cons, hnew]
  rfl

/-- A new provider takes the name. -/
theorem nameTaken_withProvider (callbackURL : String) (source : OAuthProvider) (s : Authentik) :
    nameTaken p (withProvider s (newProvider alloc p callbackURL source s)) = true := by
  rw [nameTaken, withProvider, List.any_append, Bool.or_eq_true]
  refine .inr (List.any_eq_true.mpr ⟨_, List.mem_singleton.mpr rfl, ?_⟩)
  rw [Bool.or_eq_true, beq_iff_eq]
  exact .inl rfl

/-- After a call the rest of a program may only refine. -/
theorem alike_after_call {Result : Type} {request : Request} {next : Answer request → Api Result}
    (h : ∀ answer, (next answer).SendsOnly Refines) (outcome : Outcome String)
    (outcomes : List (Outcome String)) (s : Authentik) :
    Alike (deliver (apply alloc) outcome s request).1
      (perform (deliver (apply alloc)) (outcome :: outcomes) s (.call request next)).1 :=
  alike_perform (h _) outcomes _

/-- What follows the creation of the application only refines. -/
theorem createApplication_eq (request : ApplicationRequest) (provider : OAuthProvider) :
    ∃ next, (p.createApplication print request.callbackURL provider >>= p.finish request) =
        .call (.createApplication p.routeAppName p.routeAppSlug provider.pk) next ∧
      ∀ answer, (next answer).SendsOnly Refines := by
  rw [Provisioner.createApplication, Program.send_bind, Program.call_bind]
  refine ⟨_, rfl, fun answer => ?_⟩
  refine Program.sendsOnly_bind ?_ (finish_refines request)
  cases answer with
  | ok application => exact registerCallback_refines _ _ _
  | error message =>
    dsimp only
    rw [findApplication_bind]
    refine ⟨trivial, fun answer => ?_⟩
    dsimp only
    split
    · exact registerCallback_refines _ _ _
    · trivial

/-- What follows a failed creation of the provider only refines. -/
theorem createProvider_eq (request : ApplicationRequest) (source : OAuthProvider) :
    ∃ next, (p.createProvider print request.callbackURL source >>= p.finish request) =
        .call (.createProvider (p.providerBody source request.callbackURL)) next ∧
      (∀ message, (next (.error message)).SendsOnly Refines) ∧
      ∀ provider, next (.ok provider) =
        (p.createApplication print request.callbackURL provider >>= p.finish request) := by
  rw [Provisioner.createProvider, Program.send_bind, Program.call_bind]
  refine ⟨_, rfl, fun message => ?_, fun provider => rfl⟩
  refine Program.sendsOnly_bind ?_ (finish_refines request)
  dsimp only
  rw [findProvider_bind]
  refine ⟨trivial, fun answer => ?_⟩
  dsimp only
  split
  · exact registerCallback_refines _ _ _
  · trivial

/-- When there is no provider for routes, the third call creates one; whether
it takes effect. -/
def creates : List (Outcome String) → Bool
  | .answered :: .answered :: outcome :: _ => outcome.takesEffect
  | _ => false

/-- The fourth call, after a creation that was answered, creates the
application; whether it takes effect. -/
def assigns : List (Outcome String) → Bool
  | .answered :: .answered :: .answered :: outcome :: _ => outcome.takesEffect
  | _ => false

/-- The provider is created and its application is not. -/
def orphans (outcomes : List (Outcome String)) : Bool := creates outcomes && !assigns outcomes

/-- What a request leaves of a state without a provider for routes. -/
def leaves (alloc : Allocator) (p : Provisioner) (callbackURL : String) (source : OAuthProvider)
    (outcomes : List (Outcome String)) (s : Authentik) : Authentik :=
  if creates outcomes && !nameTaken p s then
    if assigns outcomes && !slugTaken p s then
      withApplication alloc p (withProvider s (newProvider alloc p callbackURL source s))
        (newProvider alloc p callbackURL source s).pk
    else withProvider s (newProvider alloc p callbackURL source s)
  else s

/-- The calls that create the provider and the application leave what their
outcomes say. -/
theorem alike_createProvider (request : ApplicationRequest) (source : OAuthProvider)
    (outcomes : List (Outcome String)) (s : Authentik) :
    Alike
      (leaves alloc p request.callbackURL source (.answered :: .answered :: outcomes) s)
      (perform (deliver (apply alloc)) outcomes s
        (p.createProvider print request.callbackURL source >>= p.finish request)).1 := by
  obtain ⟨next, hprogram, herror, hok⟩ := @createProvider_eq p print request source
  rw [hprogram]
  cases outcomes with
  | nil => exact Alike.refl s
  | cons third outcomes =>
    rw [perform, leaves]
    cases third with
    | refused failure => exact alike_perform (herror failure) outcomes s
    | lost failure =>
      rw [deliver, apply_createProvider_eq]
      have hcreates : creates (.answered :: .answered :: .lost failure :: outcomes) = true := rfl
      have hassigns : assigns (.answered :: .answered :: .lost failure :: outcomes) = false := rfl
      rw [hcreates, hassigns, Bool.true_and, Bool.false_and, if_neg Bool.false_ne_true]
      cases hname : nameTaken p s with
      | true => exact alike_perform (herror failure) outcomes s
      | false => exact alike_perform (herror failure) outcomes _
    | answered =>
      rw [deliver, apply_createProvider_eq]
      have hcreates : creates (.answered :: .answered :: .answered :: outcomes) = true := rfl
      rw [hcreates, Bool.true_and]
      cases hname : nameTaken p s with
      | true => exact alike_perform (herror notUnique) outcomes s
      | false =>
        rw [if_neg Bool.false_ne_true, Bool.not_false, if_pos rfl]
        refine (congrArg (fun program => Alike _ (perform (deliver (apply alloc)) outcomes
          (withProvider s (newProvider alloc p request.callbackURL source s)) program).1)
          (hok (newProvider alloc p request.callbackURL source s))).mpr ?_
        obtain ⟨rest, hrest, hrefines⟩ := @createApplication_eq p print request
          (newProvider alloc p request.callbackURL source s)
        rw [hrest]
        cases outcomes with
        | nil => exact Alike.refl _
        | cons fourth outcomes =>
          have hassigns : assigns (.answered :: .answered :: .answered :: fourth :: outcomes) =
              fourth.takesEffect := rfl
          have hcall := @alike_after_call alloc _ _ _ hrefines fourth outcomes
            (withProvider s (newProvider alloc p request.callbackURL source s))
          have hslug : slugTaken p
              (withProvider s (newProvider alloc p request.callbackURL source s)) =
              slugTaken p s := rfl
          rw [hassigns]
          cases fourth with
          | refused failure => exact hcall
          | answered =>
            rw [deliver, apply_createApplication_eq, hslug] at hcall
            rw [Outcome.takesEffect, Bool.true_and]
            cases hslugTaken : slugTaken p s with
            | true =>
              rw [hslugTaken] at hcall
              exact hcall
            | false =>
              rw [hslugTaken] at hcall
              exact hcall
          | lost failure =>
            rw [deliver, apply_createApplication_eq, hslug] at hcall
            rw [Outcome.takesEffect, Bool.true_and]
            cases hslugTaken : slugTaken p s with
            | true =>
              rw [hslugTaken] at hcall
              exact hcall
            | false =>
              rw [hslugTaken] at hcall
              exact hcall

/-- A request that finds neither provider leaves a state alike; one that finds
the provider to copy leaves what its outcomes say. -/
theorem alike_attempt_missing (request : ApplicationRequest) (outcomes : List (Outcome String))
    (hlist : s.providers.length ≤ 1000) (hroute : providerOf p.routeAppSlug s = none) :
    Alike
      (match providerOf p.sourceAppSlug s with
        | none => s
        | some source => leaves alloc p request.callbackURL source outcomes s)
      (perform (deliver (apply alloc)) outcomes s (p.provisionApplication print request)).1 := by
  have hearly : ∀ {early : List (Outcome String)}, creates early = false →
      (match providerOf p.sourceAppSlug s with
        | none => s
        | some source => leaves alloc p request.callbackURL source early s) = s := by
    intro early hcreates
    split
    · rfl
    · rw [leaves, hcreates, Bool.false_and, if_neg Bool.false_ne_true]
  rw [provisionApplication_eq]
  cases outcomes with
  | nil =>
    rw [hearly rfl]
    exact Alike.refl s
  | cons first outcomes =>
    cases first with
    | refused failure =>
      rw [hearly rfl, perform, deliver]
      dsimp only [Except.map]
      rw [perform_done]
      exact Alike.refl s
    | lost failure =>
      rw [hearly rfl, perform, deliver]
      dsimp only [Except.map, apply]
      rw [perform_done]
      exact Alike.refl s
    | answered =>
      rw [perform, deliver]
      dsimp only [Except.map, apply]
      rw [find_take_providers hlist, hroute]
      dsimp only
      cases outcomes with
      | nil =>
        rw [hearly rfl]
        exact Alike.refl s
      | cons second outcomes =>
        cases second with
        | refused failure =>
          rw [hearly rfl, perform, deliver]
          dsimp only [Except.map]
          rw [perform_done]
          exact Alike.refl s
        | lost failure =>
          rw [hearly rfl, perform, deliver]
          dsimp only [Except.map, apply]
          rw [perform_done]
          exact Alike.refl s
        | answered =>
          rw [perform, deliver]
          dsimp only [Except.map, apply]
          rw [find_take_providers hlist]
          cases providerOf p.sourceAppSlug s with
          | none =>
            dsimp only
            rw [perform_done]
            exact Alike.refl s
          | some source => exact alike_createProvider request source outcomes s

/-- Without a provider for routes, a state is ready when nothing of it exists
and there is a provider to copy. -/
theorem ready_iff_of_missing (hroute : providerOf p.routeAppSlug s = none) :
    Ready p s ↔ (providerOf p.sourceAppSlug s).isSome = true ∧ nameTaken p s = false ∧
      slugTaken p s = false := by
  rw [Ready, hroute]

/-- What a request leaves is ready exactly when the state was and no provider
was left without its application. -/
theorem ready_leaves_iff {source : OAuthProvider} (callbackURL : String)
    (outcomes : List (Outcome String)) (hroute : providerOf p.routeAppSlug s = none)
    (hsource : providerOf p.sourceAppSlug s = some source) :
    Ready p (leaves alloc p callbackURL source outcomes s) ↔
      Ready p s ∧ orphans outcomes = false := by
  have hready : Ready p s ↔ nameTaken p s = false ∧ slugTaken p s = false := by
    rw [ready_iff_of_missing hroute, hsource, Option.isSome_some]
    exact and_iff_right rfl
  have hblocked : ¬ Ready p (withProvider s (newProvider alloc p callbackURL source s)) := by
    rw [ready_iff_of_missing (providerOf_withProvider hroute), nameTaken_withProvider]
    intro h
    exact Bool.false_ne_true h.2.1.symm
  rw [leaves, orphans]
  cases hcreates : creates outcomes with
  | false => simp
  | true =>
    cases hname : nameTaken p s with
    | true =>
      simp [hready, hname]
    | false =>
      cases hassigns : assigns outcomes with
      | false =>
        simp only [Bool.not_false, Bool.and_self, if_true, Bool.false_and, Bool.false_eq_true,
          if_false, Bool.true_eq_false, and_false, iff_false]
        exact hblocked
      | true =>
        cases hslug : slugTaken p s with
        | true =>
          simp only [Bool.not_false, Bool.and_self, if_true, Bool.not_true, Bool.and_false,
            Bool.false_eq_true, if_false, hready, hname, hslug, Bool.true_eq_false, and_false,
            false_and, iff_false]
          exact hblocked
        | false =>
          simp only [Bool.not_false, Bool.and_self, if_true, Bool.not_true, Bool.and_false, hready,
            hname, hslug, true_and, iff_true]
          rw [Ready, providerOf_withApplication hroute]
          exact ⟨rfl, p.routeAppSlug_ne⟩

/-- After one request a state is ready exactly when it was before and the
request did not leave a provider without its application. -/
theorem ready_attempt_iff (request : ApplicationRequest) (outcomes : List (Outcome String))
    (hlist : s.providers.length ≤ 1000) :
    Ready p (perform (deliver (apply alloc)) outcomes s
        (p.provisionApplication print request)).1 ↔
      Ready p s ∧ (providerOf p.routeAppSlug s = none → orphans outcomes = false) := by
  cases hroute : providerOf p.routeAppSlug s with
  | some provider =>
    rw [(alike_attempt_found request outcomes hlist hroute).ready]
    exact ⟨fun h => ⟨h, fun hnone => nomatch hnone⟩, fun h => h.1⟩
  | none =>
    rw [(alike_attempt_missing request outcomes hlist hroute).ready]
    cases hsource : providerOf p.sourceAppSlug s with
    | none =>
      have hnot : ¬ Ready p s := by
        rw [ready_iff_of_missing hroute, hsource]
        intro h
        exact Bool.false_ne_true h.1
      exact ⟨fun h => absurd h hnot, fun h => absurd h.1 hnot⟩
    | some source =>
      rw [ready_leaves_iff request.callbackURL outcomes hroute hsource]
      exact ⟨fun h => ⟨h.1, fun _ => h.2⟩, fun h => ⟨h.1, h.2 rfl⟩⟩

end

end LfpPipe.ProvisioningAttempts
