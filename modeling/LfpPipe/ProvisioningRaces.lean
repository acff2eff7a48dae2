import LfpPipe.IdentityProvisioning
import LfpPipe.ProgramProtocols

/-!
# Provisioning on two replicas

The calls of two replicas may be interleaved in any way, and each call may
also be refused or lose its answer. As long as every change of redirects
extends the list that is stored at that moment, a replica that succeeds has
its callback on the provider of the application for routes, and no redirect
is ever removed. A change that was computed from an older list removes what
the other replica has added since.
-/

namespace LfpPipe.ProvisioningRaces

open GoText TransitionRuns RemotePrograms ProgramProtocols AuthentikApi IdentityProvisioning

/-- The application for routes has its provider on the first page. -/
def Visible (p : Provisioner) (s : Authentik) : Prop :=
  ∃ provider ∈ s.providers.take 1000, provider.assignedApplicationSlug = p.routeAppSlug

/-- The application for routes does not exist, or it has a provider of the
name that the provisioner gives. -/
structure OwnCreation (p : Provisioner) (s : Authentik) : Prop where
  /-- Its provider has the name. -/
  named : ∀ provider ∈ s.providers, provider.assignedApplicationSlug = p.routeAppSlug →
    provider.name = p.routeAppName
  /-- It has a provider. -/
  backed : ∀ application ∈ s.applications, application.slug = p.routeAppSlug →
    ∃ provider ∈ s.providers, provider.assignedApplicationSlug = p.routeAppSlug

/-- What a provider keeps: its key, its name and its redirects, and its
application unless it had none. -/
structure Keeps (p : Provisioner) (before after : OAuthProvider) : Prop where
  /-- The key is the same. -/
  key : after.pk = before.pk
  /-- The name is the same. -/
  name : after.name = before.name
  /-- Only the application for routes is added. -/
  slug : after.assignedApplicationSlug = before.assignedApplicationSlug ∨
    before.assignedApplicationSlug = "" ∧ after.assignedApplicationSlug = p.routeAppSlug
  /-- No redirect is removed. -/
  redirects : ∀ redirect ∈ before.redirectURIs, redirect ∈ after.redirectURIs

/-- What one call of a replica may do to Authentik. -/
structure Evolves (p : Provisioner) (s t : Authentik) : Prop where
  /-- Authentik stays consistent. -/
  consistent : Consistent s → Consistent t
  /-- What is on the first page stays there. -/
  visible : Visible p s → Visible p t
  /-- No other provider gets the application. -/
  own : OwnCreation p s → OwnCreation p t
  /-- Every provider is kept. -/
  keeps : ∀ provider ∈ s.providers, ∃ kept ∈ t.providers, Keeps p provider kept

section

variable {p : Provisioner}

/-- A provider keeps everything when nothing happens. -/
theorem Keeps.refl (provider : OAuthProvider) : Keeps p provider provider :=
  ⟨rfl, rfl, .inl rfl, fun _ h => h⟩

/-- What is kept twice is kept. -/
theorem Keeps.trans {a b c : OAuthProvider} (hab : Keeps p a b) (hbc : Keeps p b c) :
    Keeps p a c := by
  refine ⟨hbc.key.trans hab.key, hbc.name.trans hab.name, ?_,
    fun redirect h => hbc.redirects redirect (hab.redirects redirect h)⟩
  rcases hab.slug with hsame | ⟨hnone, hroute⟩
  · rw [← hsame]
    exact hbc.slug
  · rcases hbc.slug with hsame | ⟨hempty, -⟩
    · exact .inr ⟨hnone, hsame.trans hroute⟩
    · exact absurd (hroute.symm.trans hempty) p.routeAppSlug_ne

/-- The provider of the application for routes stays its provider. -/
theorem Keeps.route {before after : OAuthProvider} (h : Keeps p before after)
    (hroute : before.assignedApplicationSlug = p.routeAppSlug) :
    after.assignedApplicationSlug = p.routeAppSlug := by
  rcases h.slug with hsame | ⟨-, hset⟩
  · exact hsame.trans hroute
  · exact hset

/-- A callback stays registered. -/
theorem Keeps.hasCallback {before after : OAuthProvider} (h : Keeps p before after)
    {callbackURL : String} (hcallback : hasCallback callbackURL before = true) :
    hasCallback callbackURL after = true := by
  rw [IdentityProvisioning.hasCallback, List.any_eq_true] at hcallback ⊢
  obtain ⟨redirect, hredirect, hmatches⟩ := hcallback
  exact ⟨redirect, h.redirects redirect hredirect, hmatches⟩

/-- A call that changes neither providers nor applications does nothing here. -/
theorem Evolves.of_eq {s t : Authentik} (hproviders : t.providers = s.providers)
    (happlications : t.applications = s.applications) : Evolves p s t := by
  refine ⟨fun h => ?_, fun h => ?_, fun h => ?_, fun provider hprovider => ?_⟩
  · constructor
    · rw [hproviders]
      exact h.keys
    · rw [hproviders]
      exact h.names
    · rw [hproviders]
      exact h.assigned
    · rw [hproviders, happlications]
      exact h.applied
  · rw [Visible, hproviders]
    exact h
  · constructor
    · rw [hproviders]
      exact h.named
    · rw [hproviders, happlications]
      exact h.backed
  · rw [hproviders]
    exact ⟨provider, hprovider, Keeps.refl provider⟩

/-- A refused call does nothing. -/
theorem Evolves.refl (s : Authentik) : Evolves p s s := Evolves.of_eq rfl rfl

/-- Several calls together. -/
theorem Evolves.trans {a b c : Authentik} (hab : Evolves p a b) (hbc : Evolves p b c) :
    Evolves p a c := by
  refine ⟨fun h => hbc.consistent (hab.consistent h), fun h => hbc.visible (hab.visible h),
    fun h => hbc.own (hab.own h), fun provider hprovider => ?_⟩
  obtain ⟨kept, hkept, hkeeps⟩ := hab.keeps provider hprovider
  obtain ⟨last, hlast, hlater⟩ := hbc.keeps kept hkept
  exact ⟨last, hlast, hkeeps.trans hlater⟩

/-- Providers with one key are one provider. -/
theorem eq_of_pk {s : Authentik} (h : Consistent s) {provider other : OAuthProvider}
    (hprovider : provider ∈ s.providers) (hother : other ∈ s.providers)
    (hkey : provider.pk = other.pk) : provider = other :=
  List.inj_on_of_nodup_map h.keys hprovider hother hkey

/-- Providers with one name are one provider. -/
theorem eq_of_name {s : Authentik} (h : Consistent s) {provider other : OAuthProvider}
    (hprovider : provider ∈ s.providers) (hother : other ∈ s.providers)
    (hname : provider.name = other.name) : provider = other :=
  List.inj_on_of_nodup_map h.names hprovider hother hname

/-- A change of providers that leaves keys, names and applications alone, and
only adds redirects, is one that a call may make. -/
theorem Evolves.of_map {s t : Authentik} {change : OAuthProvider → OAuthProvider}
    (hproviders : t.providers = s.providers.map change)
    (happlications : t.applications = s.applications)
    (hpk : ∀ provider, (change provider).pk = provider.pk)
    (hname : ∀ provider, (change provider).name = provider.name)
    (hslug : ∀ provider,
      (change provider).assignedApplicationSlug = provider.assignedApplicationSlug)
    (hredirects : ∀ provider ∈ s.providers, ∀ redirect ∈ provider.redirectURIs,
      redirect ∈ (change provider).redirectURIs) : Evolves p s t := by
  have hmem : ∀ provider ∈ t.providers, ∃ old ∈ s.providers, change old = provider := by
    intro provider hprovider
    rw [hproviders] at hprovider
    exact List.mem_map.mp hprovider
  have himage : ∀ provider ∈ s.providers, change provider ∈ t.providers := by
    intro provider hprovider
    rw [hproviders]
    exact List.mem_map_of_mem hprovider
  refine ⟨fun h => ?_, fun h => ?_, fun h => ?_, fun provider hprovider => ?_⟩
  · constructor
    · rw [hproviders, List.map_map]
      have hcomp : OAuthProvider.pk ∘ change = OAuthProvider.pk := funext hpk
      rw [hcomp]
      exact h.keys
    · rw [hproviders, List.map_map]
      have hcomp : OAuthProvider.name ∘ change = OAuthProvider.name := funext hname
      rw [hcomp]
      exact h.names
    · intro provider hprovider other hother hne hsame
      obtain ⟨first, hfirst, rfl⟩ := hmem provider hprovider
      obtain ⟨second, hsecond, rfl⟩ := hmem other hother
      rw [hslug] at hne
      rw [hslug, hslug] at hsame
      rw [h.assigned first hfirst second hsecond hne hsame]
    · intro provider hprovider hne
      obtain ⟨first, hfirst, rfl⟩ := hmem provider hprovider
      rw [hslug] at hne ⊢
      rw [happlications]
      exact h.applied first hfirst hne
  · obtain ⟨provider, hprovider, hroute⟩ := h
    refine ⟨change provider, ?_, (hslug provider).trans hroute⟩
    rw [hproviders, ← List.map_take]
    exact List.mem_map_of_mem hprovider
  · constructor
    · intro provider hprovider hroute
      obtain ⟨first, hfirst, rfl⟩ := hmem provider hprovider
      rw [hslug] at hroute
      rw [hname]
      exact h.named first hfirst hroute
    · intro application happlication hroute
      rw [happlications] at happlication
      obtain ⟨provider, hprovider, hassigned⟩ := h.backed application happlication hroute
      exact ⟨change provider, himage provider hprovider, (hslug provider).trans hassigned⟩
  · exact ⟨change provider, himage provider hprovider,
      hpk provider, hname provider, .inl (hslug provider), hredirects provider hprovider⟩

/-- A new provider without an application is added. -/
theorem Evolves.of_append {s t : Authentik} {added : OAuthProvider}
    (hproviders : t.providers = s.providers ++ [added])
    (happlications : t.applications = s.applications)
    (hpk : ∀ provider ∈ s.providers, provider.pk ≠ added.pk)
    (hname : ∀ provider ∈ s.providers, provider.name ≠ added.name)
    (hslug : added.assignedApplicationSlug = "") : Evolves p s t := by
  have hmem : ∀ provider ∈ t.providers, provider.assignedApplicationSlug ≠ "" →
      provider ∈ s.providers := by
    intro provider hprovider hne
    rw [hproviders] at hprovider
    rcases List.mem_append.mp hprovider with hold | hnew
    · exact hold
    · rw [List.mem_singleton.mp hnew] at hne
      exact absurd hslug hne
  have hold : ∀ provider ∈ s.providers, provider ∈ t.providers := by
    intro provider hprovider
    rw [hproviders]
    exact List.mem_append_left _ hprovider
  have hfresh : ∀ {Value : Type} {field : OAuthProvider → Value},
      (s.providers.map field).Nodup → (∀ provider ∈ s.providers, field provider ≠ field added) →
      (t.providers.map field).Nodup := by
    intro Value field hnodup hne
    rw [hproviders, List.map_append, List.nodup_append']
    refine ⟨hnodup, List.nodup_singleton _, ?_⟩
    intro value hvalue hlast
    obtain ⟨provider, hprovider, rfl⟩ := List.mem_map.mp hvalue
    exact hne provider hprovider (List.mem_singleton.mp hlast)
  refine ⟨fun h => ?_, fun h => ?_, fun h => ?_, fun provider hprovider => ?_⟩
  · refine ⟨hfresh h.keys hpk, hfresh h.names hname, ?_, ?_⟩
    · intro provider hprovider other hother hne hsame
      have hother' := hmem other hother fun hempty => hne (hsame.trans hempty)
      exact h.assigned provider (hmem provider hprovider hne) other hother' hne hsame
    · intro provider hprovider hne
      rw [happlications]
      exact h.applied provider (hmem provider hprovider hne) hne
  · obtain ⟨provider, hprovider, hroute⟩ := h
    refine ⟨provider, ?_, hroute⟩
    rw [hproviders, List.take_append]
    exact List.mem_append_left _ hprovider
  · constructor
    · intro provider hprovider hroute
      have hne : provider.assignedApplicationSlug ≠ "" := by
        rw [hroute]
        exact p.routeAppSlug_ne
      exact h.named provider (hmem provider hprovider hne) hroute
    · intro application happlication hroute
      rw [happlications] at happlication
      obtain ⟨provider, hprovider, hassigned⟩ := h.backed application happlication hroute
      exact ⟨provider, hold provider hprovider, hassigned⟩
  · exact ⟨provider, hold provider hprovider, Keeps.refl provider⟩

/-- The application for routes is created on a provider that the provisioner
has created. -/
theorem Evolves.of_assign {s t : Authentik} {application : Application} {target : OAuthProvider}
    (hproviders : t.providers = s.providers.map fun candidate =>
      if candidate.pk == target.pk then
        { candidate with assignedApplicationSlug := p.routeAppSlug } else candidate)
    (happlications : t.applications = s.applications ++ [application])
    (hslug : application.slug = p.routeAppSlug)
    (hfree : ∀ other ∈ s.applications, other.slug ≠ p.routeAppSlug) (hs : Consistent s)
    (htarget : target ∈ s.providers) (hname : target.name = p.routeAppName)
    (hempty : target.assignedApplicationSlug = "") : Evolves p s t := by
  have hnone : ∀ provider ∈ s.providers, provider.assignedApplicationSlug ≠ p.routeAppSlug := by
    intro provider hprovider hroute
    have hne : provider.assignedApplicationSlug ≠ "" := by
      rw [hroute]
      exact p.routeAppSlug_ne
    obtain ⟨other, hother, hsame⟩ := hs.applied provider hprovider hne
    exact hfree other hother (hsame.trans hroute)
  have hmem : ∀ provider ∈ t.providers,
      provider = { target with assignedApplicationSlug := p.routeAppSlug } ∨
        provider ∈ s.providers ∧ provider.pk ≠ target.pk := by
    intro provider hprovider
    rw [hproviders] at hprovider
    obtain ⟨old, hold, rfl⟩ := List.mem_map.mp hprovider
    by_cases hkey : old.pk = target.pk
    · rw [eq_of_pk hs hold htarget hkey, if_pos (beq_self_eq_true _)]
      exact .inl rfl
    · rw [if_neg (by simpa using hkey)]
      exact .inr ⟨hold, hkey⟩
  have hset : ({ target with assignedApplicationSlug := p.routeAppSlug } : OAuthProvider) ∈
      t.providers := by
    rw [hproviders]
    refine List.mem_map.mpr ⟨target, htarget, ?_⟩
    rw [if_pos (beq_self_eq_true _)]
  have hfield : ∀ {Value : Type} {field : OAuthProvider → Value},
      (∀ provider : OAuthProvider,
        field { provider with assignedApplicationSlug := p.routeAppSlug } = field provider) →
      (s.providers.map field).Nodup → (t.providers.map field).Nodup := by
    intro Value field hsame hnodup
    rw [hproviders, List.map_map]
    have hcomp : (field ∘ fun candidate => if candidate.pk == target.pk then
        { candidate with assignedApplicationSlug := p.routeAppSlug } else candidate) = field := by
      funext candidate
      rw [Function.comp_apply]
      split
      · exact hsame candidate
      · rfl
    rw [hcomp]
    exact hnodup
  refine ⟨fun _ => ?_, fun h => ?_, fun h => ?_, fun provider hprovider => ?_⟩
  · refine ⟨hfield (fun _ => rfl) hs.keys, hfield (fun _ => rfl) hs.names, ?_, ?_⟩
    · intro provider hprovider other hother hne hsame
      rcases hmem provider hprovider with rfl | ⟨hold, -⟩
      · rcases hmem other hother with rfl | ⟨hother, -⟩
        · rfl
        · exact absurd hsame.symm (hnone other hother)
      · rcases hmem other hother with rfl | ⟨hother, -⟩
        · exact absurd hsame (hnone provider hold)
        · exact hs.assigned provider hold other hother hne hsame
    · intro provider hprovider hne
      rw [happlications]
      rcases hmem provider hprovider with rfl | ⟨hold, -⟩
      · exact ⟨application, List.mem_append_right _ (List.mem_singleton.mpr rfl), hslug⟩
      · obtain ⟨other, hother, hsame⟩ := hs.applied provider hold hne
        exact ⟨other, List.mem_append_left _ hother, hsame⟩
  · obtain ⟨provider, hprovider, hroute⟩ := h
    exact absurd hroute (hnone provider (List.mem_of_mem_take hprovider))
  · constructor
    · intro provider hprovider hroute
      rcases hmem provider hprovider with rfl | ⟨hold, -⟩
      · exact hname
      · exact absurd hroute (hnone provider hold)
    · intro _ _ _
      exact ⟨_, hset, rfl⟩
  · by_cases hkey : provider.pk = target.pk
    · rw [eq_of_pk hs hprovider htarget hkey]
      exact ⟨_, hset, rfl, rfl, .inr ⟨hempty, rfl⟩, fun _ h => h⟩
    · refine ⟨provider, ?_, Keeps.refl provider⟩
      rw [hproviders]
      refine List.mem_map.mpr ⟨provider, hprovider, ?_⟩
      rw [if_neg (by simpa using hkey)]

variable {alloc : Allocator}

/-- A call takes effect or does nothing. -/
theorem deliver_state (outcome : Outcome String) (s : Authentik) (request : Request) :
    (deliver (apply alloc) outcome s request).1 = s ∨
      outcome.takesEffect = true ∧
        (deliver (apply alloc) outcome s request).1 = (apply alloc s request).1 := by
  cases outcome with
  | answered => exact .inr ⟨rfl, rfl⟩
  | refused failure => exact .inl rfl
  | lost failure => exact .inr ⟨rfl, rfl⟩

/-- An answer without an error is that of Authentik. -/
theorem deliver_eq_ok {outcome : Outcome String} {s : Authentik} {request : Request}
    {reply : Reply request} (h : (deliver (apply alloc) outcome s request).2 = .ok reply) :
    deliver (apply alloc) outcome s request = apply alloc s request := by
  cases outcome with
  | answered => rfl
  | refused failure => cases h
  | lost failure => cases h

/-- What holds of doing nothing and of taking effect holds of every outcome. -/
theorem Evolves.deliver {s : Authentik} {request : Request} {outcome : Outcome String}
    (h : outcome.takesEffect = true → Evolves p s (apply alloc s request).1) :
    Evolves p s (deliver (apply alloc) outcome s request).1 := by
  rcases deliver_state outcome s request with hstate | ⟨heffect, hstate⟩
  · rw [hstate]
    exact Evolves.refl s
  · rw [hstate]
    exact h heffect

/-- A new provider has fresh keys. -/
theorem Evolves.apply_createProvider (s : Authentik) (body : OAuthProvider) :
    Evolves p s (apply alloc s (.createProvider body)).1 := by
  rw [apply]
  split
  · exact Evolves.refl s
  · rename_i hfree
    refine Evolves.of_append rfl rfl (alloc.providerPK_fresh s.providers) ?_ rfl
    intro provider hprovider hname
    refine hfree (List.any_eq_true.mpr ⟨provider, hprovider, ?_⟩)
    rw [Bool.or_eq_true, beq_iff_eq]
    exact .inl hname

/-- The list that is sent extends the one that is stored. -/
def ExtendsStored (s : Authentik) (pk : ℤ) (redirectURIs : List RedirectURI) : Prop :=
  ∀ provider ∈ s.providers, provider.pk = pk →
    ∃ added, redirectURIs = provider.redirectURIs ++ [added]

/-- A change of redirects that extends the stored list removes nothing. -/
theorem Evolves.apply_updateRedirectURIs {s : Authentik} {pk : ℤ}
    {redirectURIs : List RedirectURI} (h : ExtendsStored s pk redirectURIs) :
    Evolves p s (apply alloc s (.updateRedirectURIs pk redirectURIs)).1 := by
  rw [apply]
  split
  · exact Evolves.refl s
  · refine @Evolves.of_map p s _ (fun provider =>
      if provider.pk == pk then { provider with redirectURIs := redirectURIs } else provider)
      rfl rfl ?_ ?_ ?_ ?_
    · intro provider
      split <;> rfl
    · intro provider
      split <;> rfl
    · intro provider
      split <;> rfl
    · intro provider hprovider redirect hredirect
      split
      · rename_i hkey
        obtain ⟨added, hlist⟩ := h provider hprovider (beq_iff_eq.mp hkey)
        dsimp only
        rw [hlist]
        exact List.mem_append_left _ hredirect
      · exact hredirect

/-- A provider that the provisioner has created, or that other replicas have
completed since. -/
structure Created (p : Provisioner) (s : Authentik) (provider : OAuthProvider) : Prop where
  /-- It is stored with its name and at least its redirects. -/
  stored : ∃ target ∈ s.providers, target.pk = provider.pk ∧ target.name = p.routeAppName ∧
    (target.assignedApplicationSlug = "" ∨ target.assignedApplicationSlug = p.routeAppSlug) ∧
    ∀ redirect ∈ provider.redirectURIs, redirect ∈ target.redirectURIs

/-- A created provider stays a created one. -/
theorem Created.mono {s t : Authentik} {provider : OAuthProvider} (h : Created p s provider)
    (hst : Evolves p s t) : Created p t provider := by
  obtain ⟨target, htarget, hkey, hname, hslug, hredirects⟩ := h.stored
  obtain ⟨kept, hkept, hkeeps⟩ := hst.keeps target htarget
  refine ⟨kept, hkept, hkeeps.key.trans hkey, hkeeps.name.trans hname, ?_,
    fun redirect hredirect => hkeeps.redirects redirect (hredirects redirect hredirect)⟩
  rcases hslug with hempty | hroute
  · rcases hkeeps.slug with hsame | ⟨-, hset⟩
    · exact .inl (hsame.trans hempty)
    · exact .inr hset
  · exact .inr (hkeeps.route hroute)

/-- The provider that was read is the one of the application for routes, and
it still has the redirects that were read. -/
structure Routed (p : Provisioner) (s : Authentik) (provider : OAuthProvider) : Prop where
  /-- It is stored, assigned, and has at least these redirects. -/
  stored : ∃ target ∈ s.providers, target.pk = provider.pk ∧
    target.assignedApplicationSlug = p.routeAppSlug ∧
    ∀ redirect ∈ provider.redirectURIs, redirect ∈ target.redirectURIs

/-- The provider of the application for routes stays its provider. -/
theorem Routed.mono {s t : Authentik} {provider : OAuthProvider} (h : Routed p s provider)
    (hst : Evolves p s t) : Routed p t provider := by
  obtain ⟨target, htarget, hkey, hroute, hredirects⟩ := h.stored
  obtain ⟨kept, hkept, hkeeps⟩ := hst.keeps target htarget
  exact ⟨kept, hkept, hkeeps.key.trans hkey, hkeeps.route hroute,
    fun redirect hredirect => hkeeps.redirects redirect (hredirects redirect hredirect)⟩

/-- The application for routes has the callback. -/
def Registered (p : Provisioner) (callbackURL : String) (s : Authentik) : Prop :=
  ∃ provider ∈ s.providers, provider.assignedApplicationSlug = p.routeAppSlug ∧
    hasCallback callbackURL provider = true

/-- A registered callback stays registered. -/
theorem Registered.mono {callbackURL : String} {s t : Authentik} (h : Registered p callbackURL s)
    (hst : Evolves p s t) : Registered p callbackURL t := by
  obtain ⟨provider, hprovider, hroute, hcallback⟩ := h
  obtain ⟨kept, hkept, hkeeps⟩ := hst.keeps provider hprovider
  exact ⟨kept, hkept, hkeeps.route hroute, hkeeps.hasCallback hcallback⟩

/-- The application for routes is created on a created provider. -/
theorem Evolves.apply_createApplication {s : Authentik} {provider : OAuthProvider}
    (hs : Consistent s) (h : Created p s provider) :
    Evolves p s
      (apply alloc s (.createApplication p.routeAppName p.routeAppSlug provider.pk)).1 := by
  rw [apply]
  split
  · exact Evolves.refl s
  · rename_i hfree
    have hfree' : ∀ other ∈ s.applications, other.slug ≠ p.routeAppSlug := by
      intro other hother hslug
      exact hfree (List.any_eq_true.mpr ⟨other, hother, beq_iff_eq.mpr hslug⟩)
    obtain ⟨target, htarget, hkey, hname, hslug, -⟩ := h.stored
    have hempty : target.assignedApplicationSlug = "" := by
      rcases hslug with hempty | hroute
      · exact hempty
      · have hne : target.assignedApplicationSlug ≠ "" := by
          rw [hroute]
          exact p.routeAppSlug_ne
        obtain ⟨other, hother, hsame⟩ := hs.applied target htarget hne
        exact absurd (hsame.trans hroute) (hfree' other hother)
    rw [← hkey]
    exact Evolves.of_assign rfl rfl rfl hfree' hs htarget hname hempty

/-- A change of redirects that takes effect extends the list that is stored
at that moment; other calls are free. -/
def Current (outcome : Outcome String) (s : Authentik) : Request → Prop
  | .updateRedirectURIs pk redirectURIs =>
    outcome.takesEffect = true → ExtendsStored s pk redirectURIs
  | _ => True

/-- What a part of a request guarantees among the calls of other replicas. -/
abbrev Guarantees (alloc : Allocator) (p : Provisioner) {Result : Type}
    (post : Result → Authentik → Prop) : Api Result → Authentik → Prop :=
  Meets (deliver (apply alloc)) Current (Evolves p) post

/-- A success leaves the callback registered. -/
def SuccessRegisters {Value : Type} (p : Provisioner) (callbackURL : String)
    (result : Except String Value) (s : Authentik) : Prop :=
  ∀ value, result = .ok value → Registered p callbackURL s

/-- A result that is an error promises nothing. -/
theorem successRegisters_error {Value : Type} (callbackURL message : String) (s : Authentik) :
    SuccessRegisters p callbackURL (.error message : Except String Value) s := by
  intro value h
  cases h

/-- The search for a provider reads the first page and changes nothing. -/
theorem findProvider_guarantees (appSlug : String) (s : Authentik) :
    Guarantees alloc p (fun result t => Evolves p s t ∧
      (∀ provider, result = .ok (some provider) →
        provider ∈ t.providers ∧ provider.assignedApplicationSlug = appSlug) ∧
      (result = .ok none →
        ∀ provider ∈ t.providers.take 1000, provider.assignedApplicationSlug ≠ appSlug))
      (findProvider appSlug) s := by
  rw [findProvider, Program.send_bind]
  intro later hlater outcome _
  have hstate : (deliver (apply alloc) outcome later .listProviders).1 = later := by
    cases outcome <;> rfl
  rw [hstate]
  refine ⟨Evolves.refl later, ?_⟩
  cases outcome with
  | refused failure =>
    refine ⟨hlater, ?_, ?_⟩
    · intro provider h
      cases h
    · intro h
      cases h
  | lost failure =>
    refine ⟨hlater, ?_, ?_⟩
    · intro provider h
      cases h
    · intro h
      cases h
  | answered =>
    refine ⟨hlater, ?_, ?_⟩
    · intro provider h
      injection h with hfind
      have hassigned : assignedTo appSlug provider = true := List.find?_some hfind
      exact ⟨List.mem_of_mem_take (List.mem_of_find?_eq_some hfind), beq_iff_eq.mp hassigned⟩
    · intro h provider hprovider hslug
      injection h with hfind
      exact List.find?_eq_none.mp hfind provider hprovider (beq_iff_eq.mpr hslug)

variable {print : PrintTable} {callbackURL : String}

/-- Adding the callback to the provider that was read registers it. -/
theorem registerCallback_guarantees {s : Authentik} {provider : OAuthProvider}
    (created : List String) (h : Routed p s provider) :
    Guarantees alloc p (SuccessRegisters p callbackURL)
      (p.registerCallback print callbackURL provider created) s := by
  rw [Provisioner.registerCallback]
  split
  · exact successRegisters_error _ _ _
  · split
    · exact successRegisters_error _ _ _
    · split
      · rename_i hcallback
        intro value _
        obtain ⟨target, htarget, -, hroute, hredirects⟩ := h.stored
        refine ⟨target, htarget, hroute, ?_⟩
        rw [hasCallback, List.any_eq_true] at hcallback ⊢
        obtain ⟨redirect, hredirect, hmatches⟩ := hcallback
        exact ⟨redirect, hredirects redirect hredirect, hmatches⟩
      · rw [Program.send_bind]
        intro later hlater outcome hcurrent
        refine ⟨Evolves.deliver fun heffect => Evolves.apply_updateRedirectURIs (hcurrent heffect),
          ?_⟩
        cases hanswer : (deliver (apply alloc) outcome later (.updateRedirectURIs provider.pk
            (provider.redirectURIs ++ [callbackRedirect callbackURL]))).2 with
        | error message => exact successRegisters_error _ _ _
        | ok reply =>
          intro value _
          rw [deliver_eq_ok hanswer, apply]
          obtain ⟨target, htarget, hkey, hroute, -⟩ := (h.mono hlater).stored
          split
          · rename_i hnone
            exact absurd (beq_iff_eq.mpr hkey) (List.find?_eq_none.mp hnone target htarget)
          · refine ⟨_, List.mem_map_of_mem htarget, ?_, ?_⟩
            · rw [if_pos (beq_iff_eq.mpr hkey)]
              exact hroute
            · rw [if_pos (beq_iff_eq.mpr hkey), hasCallback, List.any_append]
              simp [callbackRedirect]

/-- Creating the application on a created provider registers the callback. -/
theorem createApplication_guarantees {s : Authentik} {provider : OAuthProvider}
    (hs : Consistent s) (hown : OwnCreation p s) (h : Created p s provider) :
    Guarantees alloc p (SuccessRegisters p callbackURL)
      (p.createApplication print callbackURL provider) s := by
  rw [Provisioner.createApplication, Program.send_bind]
  intro later hlater outcome _
  have hcreated := h.mono hlater
  have hstep : Evolves p later (deliver (apply alloc) outcome later
      (.createApplication p.routeAppName p.routeAppSlug provider.pk)).1 :=
    Evolves.deliver fun _ =>
      Evolves.apply_createApplication (hlater.consistent hs) hcreated
  refine ⟨hstep, ?_⟩
  have hreach := hlater.trans hstep
  cases hanswer : (deliver (apply alloc) outcome later
      (.createApplication p.routeAppName p.routeAppSlug provider.pk)).2 with
  | ok reply =>
    refine registerCallback_guarantees _ ?_
    have hdeliver := deliver_eq_ok hanswer
    rw [hdeliver, apply] at hanswer
    rw [hdeliver, apply]
    split at hanswer
    · cases hanswer
    · rename_i hfree
      rw [if_neg hfree]
      obtain ⟨target, htarget, hkey, -, -, hredirects⟩ := hcreated.stored
      refine ⟨_, List.mem_map_of_mem htarget, ?_⟩
      rw [if_pos (beq_iff_eq.mpr hkey)]
      exact ⟨hkey, rfl, hredirects⟩
  | error message =>
    dsimp only
    rw [findApplication, Program.send_bind]
    intro last hlast outcome _
    have hstate : (deliver (apply alloc) outcome last (.findApplications p.routeAppSlug)).1 =
        last := by
      cases outcome <;> rfl
    rw [hstate]
    refine ⟨Evolves.refl last, ?_⟩
    cases outcome with
    | refused failure => exact successRegisters_error _ _ _
    | lost failure => exact successRegisters_error _ _ _
    | answered =>
      rw [deliver, apply]
      dsimp only [Program.pure_bind]
      cases hfind : ((last.applications.filter (·.slug == p.routeAppSlug)).take 2).find?
          (·.slug == p.routeAppSlug) with
      | none => exact successRegisters_error _ _ _
      | some application =>
        refine registerCallback_guarantees _ ?_
        have hownLast := hlast.own (hreach.own hown)
        have hmem := (List.mem_filter.mp
          (List.mem_of_mem_take (List.mem_of_find?_eq_some hfind))).1
        have hslug : (application.slug == p.routeAppSlug) = true := List.find?_some
          (p := fun application : Application => application.slug == p.routeAppSlug) hfind
        obtain ⟨routed, hrouted, hroute⟩ := hownLast.backed application hmem (beq_iff_eq.mp hslug)
        obtain ⟨target, htarget, hkey, hname, -, hredirects⟩ :=
          (h.mono (hreach.trans hlast)).stored
        have hsame : routed = target := by
          refine eq_of_name (hlast.consistent (hreach.consistent hs)) hrouted htarget ?_
          exact (hownLast.named routed hrouted hroute).trans hname.symm
        rw [hsame] at hroute
        exact ⟨target, htarget, hkey, hroute, hredirects⟩

/-- Creating the provider registers the callback, also when another replica
was first. -/
theorem createProvider_guarantees {s : Authentik} (source : OAuthProvider) (hs : Consistent s)
    (hown : OwnCreation p s) :
    Guarantees alloc p (SuccessRegisters p callbackURL)
      (p.createProvider print callbackURL source) s := by
  rw [Provisioner.createProvider, Program.send_bind]
  intro later hlater outcome _
  have hstep : Evolves p later (deliver (apply alloc) outcome later
      (.createProvider (p.providerBody source callbackURL))).1 :=
    Evolves.deliver fun _ => Evolves.apply_createProvider later _
  refine ⟨hstep, ?_⟩
  have hreach := hlater.trans hstep
  cases hanswer : (deliver (apply alloc) outcome later
      (.createProvider (p.providerBody source callbackURL))).2 with
  | ok provider =>
    refine createApplication_guarantees (hreach.consistent hs) (hreach.own hown) ⟨?_⟩
    have hdeliver := deliver_eq_ok hanswer
    rw [hdeliver, apply] at hanswer
    rw [hdeliver, apply]
    split at hanswer
    · cases hanswer
    · rename_i hfree
      rw [if_neg hfree]
      cases hanswer
      exact ⟨_, List.mem_append_right _ (List.mem_singleton.mpr rfl), rfl, rfl, .inl rfl,
        fun _ h => h⟩
  | error message =>
    refine (findProvider_guarantees p.routeAppSlug _).bind ?_
    intro result last hfound
    cases result with
    | error other => exact successRegisters_error _ _ _
    | ok found =>
      cases found with
      | none => exact successRegisters_error _ _ _
      | some current =>
        obtain ⟨hcurrent, hroute⟩ := hfound.2.1 current rfl
        exact registerCallback_guarantees _ ⟨current, hcurrent, rfl, hroute, fun _ h => h⟩

/-- Finding or creating the application for routes registers the callback. -/
theorem ensureRouteApplication_guarantees {s : Authentik} (hs : Consistent s)
    (hstart : Visible p s ∨ OwnCreation p s) :
    Guarantees alloc p (SuccessRegisters p callbackURL)
      (p.ensureRouteApplication print callbackURL) s := by
  rw [Provisioner.ensureRouteApplication]
  refine (findProvider_guarantees p.routeAppSlug s).bind ?_
  intro result later hfound
  cases result with
  | error message => exact successRegisters_error _ _ _
  | ok found =>
    cases found with
    | some provider =>
      obtain ⟨hprovider, hroute⟩ := hfound.2.1 provider rfl
      exact registerCallback_guarantees _ ⟨provider, hprovider, rfl, hroute, fun _ h => h⟩
    | none =>
      have hown : OwnCreation p s := by
        rcases hstart with hvisible | hown
        · obtain ⟨provider, hprovider, hroute⟩ := hfound.1.visible hvisible
          exact absurd hroute (hfound.2.2 rfl provider hprovider)
        · exact hown
      refine (findProvider_guarantees p.sourceAppSlug later).bind ?_
      intro result last hsource
      have hreach := hfound.1.trans hsource.1
      cases result with
      | error message => exact successRegisters_error _ _ _
      | ok found =>
        cases found with
        | none => exact successRegisters_error _ _ _
        | some source =>
          exact createProvider_guarantees source (hreach.consistent hs) (hreach.own hown)

/-- The group of a request does not touch the callback. -/
theorem ensureGroup_guarantees {s : Authentik} (name : String) (h : Registered p callbackURL s) :
    Guarantees alloc p (fun _ t => Registered p callbackURL t) (ensureGroup name) s := by
  rw [ensureGroup, Program.send_bind]
  intro later hlater outcome _
  have hstate : (deliver (apply alloc) outcome later (.findGroups name)).1 = later := by
    cases outcome <;> rfl
  rw [hstate]
  refine ⟨Evolves.refl later, ?_⟩
  cases (deliver (apply alloc) outcome later (.findGroups name)).2 with
  | error message => exact h.mono hlater
  | ok groups =>
    dsimp only
    split
    · exact h.mono hlater
    · rw [Program.send_bind]
      intro last hlast outcome _
      have hstep : Evolves p last (deliver (apply alloc) outcome last (.createGroup name)).1 := by
        refine Evolves.deliver fun _ => ?_
        rw [apply]
        split
        · exact Evolves.refl last
        · exact Evolves.of_eq rfl rfl
      refine ⟨hstep, ?_⟩
      have hkept := h.mono ((hlater.trans hlast).trans hstep)
      cases (deliver (apply alloc) outcome last (.createGroup name)).2 with
      | error message => exact hkept
      | ok group => exact hkept

/-- A request that succeeds among the calls of other replicas leaves its
callback registered. -/
theorem provisionApplication_guarantees {s : Authentik} (request : ApplicationRequest)
    (hs : Consistent s) (hstart : Visible p s ∨ OwnCreation p s) :
    Guarantees alloc p (SuccessRegisters p request.callbackURL)
      (p.provisionApplication print request) s := by
  rw [Provisioner.provisionApplication]
  refine (ensureRouteApplication_guarantees hs hstart).bind ?_
  intro result later hresult
  cases result with
  | error message => exact successRegisters_error _ _ _
  | ok ensured =>
    obtain ⟨provider, created⟩ := ensured
    have hregistered := hresult (provider, created) rfl
    rw [Provisioner.finish]
    split
    · refine (ensureGroup_guarantees _ hregistered).bind ?_
      intro result last hkept
      cases result with
      | error message => exact successRegisters_error _ _ _
      | ok groupCreated =>
        intro value _
        exact hkept
    · intro value _
      exact hregistered

/-- What two replicas should leave behind: the provider of the application for
routes has both callbacks and every redirect that it had before. -/
def CallbacksKept (p : Provisioner) (requests : Bool → ApplicationRequest)
    (before after : Authentik) : Prop :=
  ∃ provider ∈ after.providers, provider.assignedApplicationSlug = p.routeAppSlug ∧
    (∀ replica, ∃ redirect ∈ provider.redirectURIs,
      redirect.url = (requests replica).callbackURL) ∧
    ∀ old ∈ before.providers, old.assignedApplicationSlug = p.routeAppSlug →
      ∀ redirect ∈ old.redirectURIs, ∃ kept ∈ provider.redirectURIs, kept.url = redirect.url

/-- The two replicas at the start of their requests. -/
def replicas (print : PrintTable) (p : Provisioner) (requests : Bool → ApplicationRequest)
    (s : Authentik) : Authentik × (Bool → Api (Except String ApplicationResult)) :=
  (s, fun replica => p.provisionApplication print (requests replica))

/-- Both replicas have reported success. -/
def BothSucceeded (system : Authentik × (Bool → Api (Except String ApplicationResult))) : Prop :=
  ∀ replica, ∃ result, system.2 replica = .done (.ok result)

/-!
## An application that is not found

When the application for routes exists and none of the providers of the first
page is its, a replica that succeeds has created a provider. The name of this
provider is taken from then on, so the other replica does not succeed.
-/

/-- The application for routes exists, and the search for its provider does
not find one. -/
structure Hidden (p : Provisioner) (s : Authentik) : Prop where
  /-- The application exists. -/
  applied : ∃ application ∈ s.applications, application.slug = p.routeAppSlug
  /-- No provider of the first page is its. -/
  unseen : ∀ provider ∈ s.providers.take 1000, provider.assignedApplicationSlug ≠ p.routeAppSlug

/-- The name of the provider for routes is taken. -/
def NameTaken (p : Provisioner) (s : Authentik) : Prop :=
  ∃ provider ∈ s.providers, provider.name = p.routeAppName

/-- How far a replica has come. -/
inductive Progress where
  /-- It has neither found the provider for routes nor created one. -/
  | searching
  /-- It has found the provider. -/
  | found
  /-- It has created a provider. -/
  | created
  deriving DecidableEq, Repr

/-- What an answer means for a replica. -/
def Progress.next (p : Provisioner) (progress : Progress) :
    (request : Request) → Answer request → Progress
  | .listProviders, .ok providers =>
    if providers.any (assignedTo p.routeAppSlug) then .found else progress
  | .createProvider _, .ok _ => .created
  | _, _ => progress

/-- A replica goes on with a request of the provisioner. -/
def Advances (p : Provisioner) (progress : Progress) (request : Request)
    (answer : Answer request) (later : Progress) : Prop :=
  Provisions p request ∧ later = progress.next p request answer

/-- A replica that succeeds has found the provider or created one. -/
def Settled {Value : Type} (progress : Progress) (result : Except String Value) : Prop :=
  ∀ value, result = .ok value → progress ≠ .searching

/-- An error settles nothing. -/
theorem settled_error {Value : Type} (progress : Progress) (message : String) :
    Settled progress (.error message : Except String Value) := by
  intro value h
  cases h

/-- A replica that has a provider never searches again. -/
theorem Progress.next_ne_searching {progress : Progress} (h : progress ≠ .searching)
    (request : Request) (answer : Answer request) :
    progress.next p request answer ≠ .searching := by
  rw [Progress.next.eq_def]
  split
  · split
    · exact Progress.noConfusion
    · exact h
  · exact Progress.noConfusion
  · exact h

/-- With a provider at hand, any requests of the provisioner may follow. -/
theorem follows_of_provisions {Value : Type} {program : Api (Except String Value)}
    {progress : Progress} (hsends : program.SendsOnly (Provisions p))
    (h : progress ≠ .searching) : Follows (Advances p) Settled program progress := by
  induction program generalizing progress with
  | done result => exact fun _ _ => h
  | call request next ih =>
    intro answer
    exact ⟨progress.next p request answer, ⟨hsends.1, rfl⟩,
      ih answer (hsends.2 answer) (Progress.next_ne_searching h request answer)⟩

/-- A search for the provider for routes ends with the provider found, or goes
on without it. -/
theorem search_follows {Value : Type}
    {rest : Except String (Option OAuthProvider) → Api (Except String Value)}
    (hfound : ∀ provider, (rest (.ok (some provider))).SendsOnly (Provisions p))
    (herror : ∀ message progress, Follows (Advances p) Settled (rest (.error message)) progress)
    (hnone : ∀ progress, Follows (Advances p) Settled (rest (.ok none)) progress)
    (progress : Progress) :
    Follows (Advances p) Settled (findProvider p.routeAppSlug >>= rest) progress := by
  rw [findProvider_bind]
  intro answer
  refine ⟨progress.next p .listProviders answer, ⟨trivial, rfl⟩, ?_⟩
  cases answer with
  | error message => exact herror message _
  | ok providers =>
    change Follows _ _ (rest (.ok (providers.find? (assignedTo p.routeAppSlug)))) _
    cases hfind : providers.find? (assignedTo p.routeAppSlug) with
    | none => exact hnone _
    | some provider =>
      refine follows_of_provisions (hfound provider) ?_
      have hany : providers.any (assignedTo p.routeAppSlug) = true :=
        List.any_eq_true.mpr ⟨provider, List.mem_of_find?_eq_some hfind, List.find?_some hfind⟩
      rw [Progress.next, if_pos hany]
      exact Progress.noConfusion

/-- Creating the provider succeeds only with the provider found or created. -/
theorem createProvider_follows (source : OAuthProvider) (progress : Progress) :
    Follows (Advances p) Settled (p.createProvider print callbackURL source) progress := by
  rw [Provisioner.createProvider, Program.send_bind]
  intro answer
  refine ⟨progress.next p _ answer, ⟨rfl, rfl⟩, ?_⟩
  cases answer with
  | ok provider =>
    exact follows_of_provisions (createApplication_provisions callbackURL provider)
      Progress.noConfusion
  | error message =>
    refine search_follows ?_ ?_ ?_ _
    · exact fun current => (registerCallback_refines _ _ _).mono fun _ => Refines.provisions
    · exact fun _ _ => settled_error _ _
    · exact fun _ => settled_error _ _

/-- A request succeeds only with the provider found or created. -/
theorem provisionApplication_follows (request : ApplicationRequest) :
    Follows (Advances p) Settled (p.provisionApplication print request) .searching := by
  rw [Provisioner.provisionApplication]
  have hensure : Follows (Advances p) Settled
      (p.ensureRouteApplication print request.callbackURL) .searching := by
    rw [Provisioner.ensureRouteApplication]
    refine search_follows ?_ ?_ ?_ _
    · exact fun current => (registerCallback_refines _ _ _).mono fun _ => Refines.provisions
    · exact fun _ _ => settled_error _ _
    · intro progress
      rw [findProvider_bind]
      intro answer
      refine ⟨progress.next p .listProviders answer, ⟨trivial, rfl⟩, ?_⟩
      dsimp only
      split
      · exact settled_error _ _
      · exact settled_error _ _
      · exact createProvider_follows _ _
  refine hensure.bind fun progress ensured hsettled => ?_
  cases ensured with
  | error message => exact settled_error _ _
  | ok ensured =>
    exact follows_of_provisions
      ((finish_refines request _).mono fun _ => Refines.provisions) (hsettled ensured rfl)

/-- No request of a provisioner makes the provider of the application visible,
or frees the name. -/
theorem hidden_apply {s : Authentik} {request : Request} (hrequest : Provisions p request)
    (h : Hidden p s) : Hidden p (apply alloc s request).1 ∧
      (NameTaken p s → NameTaken p (apply alloc s request).1) := by
  cases request with
  | createProvider body =>
    rw [apply]
    split
    · exact ⟨h, id⟩
    · refine ⟨⟨h.applied, ?_⟩, ?_⟩
      · intro provider hprovider
        rw [List.take_append] at hprovider
        rcases List.mem_append.mp hprovider with hold | hnew
        · exact h.unseen provider hold
        · rw [List.mem_singleton.mp (List.mem_of_mem_take hnew)]
          exact Ne.symm p.routeAppSlug_ne
      · rintro ⟨provider, hprovider, hname⟩
        exact ⟨provider, List.mem_append_left _ hprovider, hname⟩
  | updateRedirectURIs pk redirectURIs =>
    rw [apply]
    split
    · exact ⟨h, id⟩
    · refine ⟨⟨h.applied, ?_⟩, ?_⟩
      · intro provider hprovider
        rw [← List.map_take] at hprovider
        obtain ⟨old, hold, rfl⟩ := List.mem_map.mp hprovider
        split
        · exact h.unseen old hold
        · exact h.unseen old hold
      · rintro ⟨provider, hprovider, hname⟩
        refine ⟨_, List.mem_map_of_mem hprovider, ?_⟩
        split
        · exact hname
        · exact hname
  | createApplication name slug pk =>
    have hslug : slug = p.routeAppSlug := hrequest
    obtain ⟨application, happlication, hsame⟩ := h.applied
    have htaken : s.applications.any (·.slug == slug) = true :=
      List.any_eq_true.mpr ⟨application, happlication, beq_iff_eq.mpr (hsame.trans hslug.symm)⟩
    rw [apply, if_pos htaken]
    exact ⟨h, id⟩
  | listProviders => exact ⟨h, id⟩
  | findApplications slug => exact ⟨h, id⟩
  | findGroups name => exact ⟨h, id⟩
  | createGroup name =>
    rw [apply]
    split
    · exact ⟨h, id⟩
    · exact ⟨⟨h.applied, h.unseen⟩, id⟩
  | _ => exact hrequest.elim

/-- An answer leaves a replica where it was, shows it the provider, or tells it
of a provider whose name was free before. -/
theorem next_cases (progress : Progress) (outcome : Outcome String) (s : Authentik)
    {request : Request} (hrequest : Provisions p request) :
    progress.next p request (deliver (apply alloc) outcome s request).2 = progress ∨
      Visible p s ∨
      progress.next p request (deliver (apply alloc) outcome s request).2 = .created ∧
        ¬ NameTaken p s ∧ NameTaken p (deliver (apply alloc) outcome s request).1 := by
  cases hanswer : (deliver (apply alloc) outcome s request).2 with
  | error message => exact .inl (by cases request <;> rfl)
  | ok reply =>
    have hdeliver := deliver_eq_ok hanswer
    rw [hdeliver] at hanswer ⊢
    cases request with
    | listProviders =>
      cases hanswer
      by_cases hany : (s.providers.take 1000).any (assignedTo p.routeAppSlug) = true
      · obtain ⟨provider, hprovider, hassigned⟩ := List.any_eq_true.mp hany
        exact .inr (.inl ⟨provider, hprovider, beq_iff_eq.mp hassigned⟩)
      · exact .inl (if_neg hany)
    | createProvider body =>
      rw [apply] at hanswer ⊢
      split at hanswer
      · cases hanswer
      · rename_i hfree
        have hname : body.name = p.routeAppName := hrequest
        refine .inr (.inr ⟨rfl, ?_, ?_⟩)
        · rintro ⟨provider, hprovider, hsame⟩
          refine hfree (List.any_eq_true.mpr ⟨provider, hprovider, ?_⟩)
          rw [Bool.or_eq_true, beq_iff_eq]
          exact .inl (hsame.trans hname.symm)
        · rw [if_neg hfree]
          exact ⟨_, List.mem_append_right _ (List.mem_singleton.mpr rfl), hname⟩
    | _ => exact .inl rfl

/-- Two replicas that do not find the provider: at most one of them has created
a provider, and its name is taken then. -/
structure Searches (p : Provisioner)
    (system : Authentik × (Bool → Api (Except String ApplicationResult)))
    (progress : Bool → Progress) : Prop where
  /-- The application exists and its provider is not found. -/
  hidden : Hidden p system.1
  /-- Both replicas send requests of the provisioner. -/
  follows : ∀ replica, Follows (Advances p) Settled (system.2 replica) (progress replica)
  /-- None has found the provider. -/
  unfound : ∀ replica, progress replica ≠ .found
  /-- The name of a provider that was created is taken. -/
  taken : ∀ replica, progress replica = .created → NameTaken p system.1
  /-- One replica at most has created a provider. -/
  once : ∀ replica other, progress replica = .created → progress other = .created →
    replica = other

/-- One call of one replica keeps this. -/
theorem Searches.step {system next : Authentik × (Bool → Api (Except String ApplicationResult))}
    {progress : Bool → Progress} {event : Bool × Outcome String} (h : Searches p system progress)
    (hstep : interleave (deliver (apply alloc)) system event = some next) :
    ∃ later, Searches p next later := by
  obtain ⟨request, rest, later, -, ⟨hrequest, rfl⟩, hstate, -, hfollows⟩ :=
    Follows.interleave h.follows hstep
  have hkept : Hidden p next.1 ∧ (NameTaken p system.1 → NameTaken p next.1) := by
    rw [hstate]
    rcases deliver_state event.2 system.1 request with hsame | ⟨-, hsame⟩
    · rw [hsame]
      exact ⟨h.hidden, id⟩
    · rw [hsame]
      exact hidden_apply hrequest h.hidden
  rcases next_cases (progress event.1) event.2 system.1 hrequest with
    hsame | hvisible | ⟨hcreated, hfree, htaken⟩
  · rw [hsame, Function.update_eq_self] at hfollows
    exact ⟨progress, hkept.1, hfollows, h.unfound, fun replica hcreated =>
      hkept.2 (h.taken replica hcreated), h.once⟩
  · obtain ⟨provider, hprovider, hroute⟩ := hvisible
    exact absurd hroute (h.hidden.unseen provider hprovider)
  · -- The name was free, so the other replica has created nothing.
    rw [hcreated] at hfollows
    have hother : ∀ replica, replica ≠ event.1 →
        Function.update progress event.1 .created replica = progress replica ∧
          progress replica ≠ .created := by
      intro replica hne
      exact ⟨Function.update_of_ne hne _ _, fun hbefore => hfree (h.taken replica hbefore)⟩
    have honly : ∀ replica, Function.update progress event.1 .created replica = .created →
        replica = event.1 := by
      intro replica hafter
      by_contra hne
      obtain ⟨hunchanged, hbefore⟩ := hother replica hne
      exact hbefore (hunchanged.symm.trans hafter)
    refine ⟨_, hkept.1, hfollows, ?_, ?_, ?_⟩
    · intro replica
      by_cases hreplica : replica = event.1
      · rw [hreplica, Function.update_self]
        exact Progress.noConfusion
      · rw [(hother replica hreplica).1]
        exact h.unfound replica
    · intro replica _
      rw [hstate]
      exact htaken
    · intro replica other hfirst hsecond
      exact (honly replica hfirst).trans (honly other hsecond).symm

/-- The provider is not found, so not both replicas succeed. -/
theorem not_bothSucceeded {requests : Bool → ApplicationRequest} {s : Authentik}
    {events : List (Bool × Outcome String)}
    {last : Authentik × (Bool → Api (Except String ApplicationResult))} (h : Hidden p s)
    (hrun : run (interleave (deliver (apply alloc))) (replicas print p requests s) events =
      some last) : ¬ BothSucceeded last := by
  have hsearches : ∃ progress, Searches p last progress := by
    refine @run_invariant _ _ _ (fun system => ∃ progress, Searches p system progress)
      ?_ _ _ _ ?_ hrun
    · rintro system event next ⟨progress, hsearches⟩ hstep
      exact hsearches.step hstep
    · exact ⟨fun _ => .searching, h, fun replica => provisionApplication_follows _,
        fun _ => Progress.noConfusion, fun _ => Progress.noConfusion,
        fun _ _ => Progress.noConfusion⟩
  obtain ⟨progress, hsearches⟩ := hsearches
  intro hdone
  have hcreated : ∀ replica, progress replica = .created := by
    intro replica
    obtain ⟨result, hresult⟩ := hdone replica
    have hsettled := hsearches.follows replica
    rw [hresult] at hsettled
    have hne := hsettled result rfl
    have hunfound := hsearches.unfound replica
    cases hprogress : progress replica with
    | searching => exact absurd hprogress hne
    | found => exact absurd hprogress hunfound
    | created => rfl
  exact Bool.noConfusion (hsearches.once true false (hcreated true) (hcreated false))

/-- In every interleaving in which each change of redirects extends the list
that is stored at that moment, two requests that succeed have both callbacks
on the provider of the application for routes, with every earlier redirect. -/
theorem concurrent_provisioning_keeps_callbacks {requests : Bool → ApplicationRequest}
    {s : Authentik} {events : List (Bool × Outcome String)}
    {last : Authentik × (Bool → Api (Except String ApplicationResult))}
    (hs : Consistent s)
    (hguard : Guarded (interleave (deliver (apply alloc))) (CallAllowed Current)
      (replicas print p requests s) events)
    (hrun : run (interleave (deliver (apply alloc))) (replicas print p requests s) events =
      some last)
    (hdone : BothSucceeded last) : CallbacksKept p requests s last.1 := by
  have hstart : Visible p s ∨ OwnCreation p s := by
    by_cases happ : ∃ application ∈ s.applications, application.slug = p.routeAppSlug
    · refine .inl ?_
      by_contra hnone
      refine not_bothSucceeded ⟨happ, fun provider hprovider hroute => ?_⟩ hrun hdone
      exact hnone ⟨provider, hprovider, hroute⟩
    · refine .inr ⟨?_, fun application happlication hslug =>
        absurd ⟨application, happlication, hslug⟩ happ⟩
      intro provider hprovider hroute
      have hne : provider.assignedApplicationSlug ≠ "" := by
        rw [hroute]
        exact p.routeAppSlug_ne
      obtain ⟨application, happlication, hslug⟩ := hs.applied provider hprovider hne
      exact absurd ⟨application, happlication, hslug.trans hroute⟩ happ
  obtain ⟨hevolves, hmeets⟩ := @interleave_meets _ _ _ _ Bool _ (deliver (apply alloc)) Current
    (Evolves p) _ (fun replica => SuccessRegisters p (requests replica).callbackURL)
    Evolves.refl Evolves.trans
    (fun _ _ _ _ hst h value hvalue => (h value hvalue).mono hst) (replicas print p requests s)
    last events (fun replica => provisionApplication_guarantees (requests replica) hs hstart)
    hguard hrun
  have hregistered : ∀ replica, Registered p (requests replica).callbackURL last.1 := by
    intro replica
    obtain ⟨result, hresult⟩ := hdone replica
    have hmeet := hmeets replica
    rw [hresult] at hmeet
    exact hmeet result rfl
  have hconsistent := hevolves.consistent hs
  obtain ⟨provider, hprovider, hroute, -⟩ := hregistered true
  have hne : provider.assignedApplicationSlug ≠ "" := by
    rw [hroute]
    exact p.routeAppSlug_ne
  refine ⟨provider, hprovider, hroute, ?_, ?_⟩
  · intro replica
    obtain ⟨other, hother, hotherRoute, hcallback⟩ := hregistered replica
    rw [← hconsistent.assigned provider hprovider other hother hne
      (hroute.trans hotherRoute.symm), hasCallback, List.any_eq_true] at hcallback
    obtain ⟨redirect, hredirect, hmatches⟩ := hcallback
    rw [Bool.and_eq_true, beq_iff_eq] at hmatches
    exact ⟨redirect, hredirect, hmatches.1⟩
  · intro old hold hrouteOld redirect hredirect
    obtain ⟨kept, hkept, hkeeps⟩ := hevolves.keeps old hold
    have hsame := hconsistent.assigned provider hprovider kept hkept hne
      (hroute.trans (hkeeps.route hrouteOld).symm)
    refine ⟨redirect, ?_, rfl⟩
    rw [hsame]
    exact hkeeps.redirects redirect hredirect

end

/-- Settings with a short name for routes. -/
def sampleProvisioner : Provisioner where
  sourceAppSlug := "pipe"
  routeAppSlug := "routes"
  routeAppName := "Routes"
  issuerBaseURL := "https://id.example.com"
  routeAppSlug_ne := by decide

/-- The provider of the application for routes, with one redirect. -/
def sampleProvider : OAuthProvider where
  pk := 8
  name := "Routes"
  authenticationFlow := none
  authorizationFlow := "authorization-flow"
  invalidationFlow := "invalidation-flow"
  propertyMappings := []
  assignedApplicationSlug := "routes"
  clientType := publicClient
  clientID := "routes"
  includeClaimsInIDToken := true
  signingKey := none
  redirectURIs := [callbackRedirect "https://old.example.com/cb"]
  subMode := "hashed_user_id"

/-- Authentik with the application for routes. -/
def sampleAuthentik : Authentik where
  users := []
  applications := [⟨"app", "Routes", "routes", some 8⟩]
  entitlements := []
  bindings := []
  providers := [sampleProvider]
  groups := []

/-- One request for each replica. -/
def sampleRequests : Bool → ApplicationRequest
  | true => ⟨"one.example.com", "/cb", ""⟩
  | false => ⟨"two.example.com", "/cb", ""⟩

/-- One replica after the other. -/
def oneAfterOther : List (Bool × Outcome String) :=
  [(true, .answered), (true, .answered), (false, .answered), (false, .answered)]

/-- Both replicas read before either writes. -/
def bothRead : List (Bool × Outcome String) :=
  [(true, .answered), (false, .answered), (true, .answered), (false, .answered)]

/-- Nothing stored is out of place. -/
theorem consistent_sample : Consistent sampleAuthentik where
  keys := List.nodup_singleton _
  names := List.nodup_singleton _
  assigned := by
    intro provider hprovider other hother _ _
    rw [List.mem_singleton.mp hprovider, List.mem_singleton.mp hother]
  applied := by
    intro provider hprovider _
    rw [List.mem_singleton.mp hprovider]
    exact ⟨_, List.mem_singleton.mpr rfl, rfl⟩

/-- One replica after the other keeps both callbacks. -/
theorem concurrent_provisioning_one_after_other :
    ∃ last, run (interleave (deliver (apply countingAllocator)))
        (replicas asciiPrintTable sampleProvisioner sampleRequests sampleAuthentik) oneAfterOther =
        some last ∧
      BothSucceeded last ∧
      CallbacksKept sampleProvisioner sampleRequests sampleAuthentik last.1 := by
  have hsucceeded : ∃ last, run (interleave (deliver (apply countingAllocator)))
      (replicas asciiPrintTable sampleProvisioner sampleRequests sampleAuthentik) oneAfterOther =
      some last ∧ BothSucceeded last := by
    refine ⟨_, rfl, ?_⟩
    intro replica
    cases replica with
    | true => exact ⟨_, rfl⟩
    | false => exact ⟨_, rfl⟩
  obtain ⟨last, hrun, hdone⟩ := hsucceeded
  refine ⟨last, hrun, hdone, ?_⟩
  refine concurrent_provisioning_keeps_callbacks consistent_sample ?_ hrun hdone
  refine Guarded.cons (callAllowed_of_waits trivial) rfl ?_
  refine Guarded.cons (callAllowed_of_waits ?_) rfl ?_
  · intro _ provider hprovider _
    rw [List.mem_singleton.mp hprovider]
    exact ⟨_, rfl⟩
  refine Guarded.cons (callAllowed_of_waits trivial) rfl ?_
  refine Guarded.cons (callAllowed_of_waits ?_) rfl trivial
  intro _ provider hprovider _
  rw [List.mem_singleton.mp hprovider]
  exact ⟨_, rfl⟩

/-- When both replicas read before either writes, both succeed and the first
callback is lost. -/
theorem concurrent_provisioning_loses_callback :
    ∃ last, run (interleave (deliver (apply countingAllocator)))
        (replicas asciiPrintTable sampleProvisioner sampleRequests sampleAuthentik) bothRead =
        some last ∧
      BothSucceeded last ∧
      ¬ CallbacksKept sampleProvisioner sampleRequests sampleAuthentik last.1 := by
  refine ⟨_, rfl, ?_, ?_⟩
  · intro replica
    cases replica with
    | true => exact ⟨_, rfl⟩
    | false => exact ⟨_, rfl⟩
  · intro h
    obtain ⟨provider, hprovider, -, hcallbacks, -⟩ := h
    obtain ⟨redirect, hredirect, hurl⟩ := hcallbacks true
    rw [List.mem_singleton.mp hprovider] at hredirect
    have hstored : redirect ∈ [callbackRedirect "https://old.example.com/cb",
        callbackRedirect "https://two.example.com/cb"] := hredirect
    rw [List.mem_pair] at hstored
    rcases hstored with rfl | rfl
    · exact absurd hurl (by decide)
    · exact absurd hurl (by decide)

end LfpPipe.ProvisioningRaces
