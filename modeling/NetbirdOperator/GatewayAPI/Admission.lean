import Mathlib.Data.List.Induction
import NetbirdOperator.GatewayAPI.Model

/-!
# Hostname admission, label by label

Which hostnames a Gateway lets a route claim is decided by `admittedHostnames`, on raw strings. This
file states the rule it implements on labels and proves the two the same: a hostname is let in when
its labels end in those of the proxy's domain and *one* listener under that domain both covers it
and lets the route's namespace in.

The string tests agree with the labels because a dotted suffix is a suffix of labels
(`Strings.labels_suffix_iff`). The one place where the form of the hostname matters is the length
test of a wildcard listener: it refuses an empty leading label, which a well-formed hostname does
not have.

## Main results

* `gatewayAdmitsRoute_iff` — the string tests decide `Admitted`
* `admittedHostnames_exact` — what is admitted, in which order, and what it depends on
-/

namespace NetbirdOperator

open Strings

namespace GatewayAPI

variable {gw : Gateway} {route : HTTPRoute} {cfg : GatewayProxy} {l : Listener}
  {h domain ns : String}

/-! ### The rule -/

/-- No label of the hostname is empty. A leading wildcard is a label like any other. -/
def WellFormed (hostname : String) : Prop := [] ∉ labels hostname

/-- The listener lets routes of the namespace in: those of its own unless it says otherwise, and
others only if it lets in all. -/
def Permits (gw : Gateway) (l : Listener) (ns : String) : Prop :=
  (policy l = none ∧ ns = gw.ns) ∨ (policy l = some .same ∧ ns = gw.ns) ∨ policy l = some .all

/-- The listener is one for names under the domain. -/
def Under (domain : String) (l : Listener) : Prop :=
  ∃ lh, l.hostname = some lh ∧ lh ≠ "" ∧ labels domain <:+ labels (trimPrefix lh "*.")

/-- The listener's hostname is the route's, or a wildcard strictly above it. -/
def Covers (l : Listener) (h : String) : Prop :=
  l.hostname = some h ∨
    ∃ s, l.hostname = some ("*." ++ s) ∧ labels s <:+ labels h ∧ labels s ≠ labels h

/-- One listener with everything it takes to admit a hostname. -/
def ListenerAdmits (gw : Gateway) (ns domain h : String) (l : Listener) : Prop :=
  Under domain l ∧ Covers l h ∧ Permits gw l ns

/-- The hostname is under the domain, and one listener of the Gateway admits it. -/
def Admitted (gw : Gateway) (ns domain h : String) : Prop :=
  labels domain <:+ labels h ∧ ∃ l ∈ gw.listeners, ListenerAdmits gw ns domain h l

/-- The listener has a concrete hostname under the domain, which it offers to routes of the
namespace that declare none. -/
def ListenerOffers (gw : Gateway) (ns domain h : String) (l : Listener) : Prop :=
  l.hostname = some h ∧ h ≠ "" ∧ hasPrefix h "*." = false ∧ labels domain <:+ labels h ∧
    Permits gw l ns

/-! ### The tests decide the rule -/

theorem allowedRoutesPermits_iff : allowedRoutesPermits gw l ns = true ↔ Permits gw l ns := by
  rw [allowedRoutesPermits, Permits]
  cases policy l with
  | none => simp
  | some f => cases f <;> simp

theorem hostnameUnderDomain_iff :
    hostnameUnderDomain h domain = true ↔ labels domain <:+ labels h := by
  rw [hostnameUnderDomain, labels_suffix_iff, Bool.or_eq_true, beq_iff_eq]

theorem listenerUnderDomain_iff : listenerUnderDomain l domain = true ↔ Under domain l := by
  rw [listenerUnderDomain, Under]
  cases l.hostname with
  | none => simp
  | some lh => simp [hostnameUnderDomain_iff]

/-- For listeners with a hostname and well-formed route hostnames, matching is covering. -/
theorem listenerHostnameMatches_iff (hh : WellFormed h) (hl : Under domain l) :
    listenerHostnameMatches l.hostname h = true ↔ Covers l h := by
  obtain ⟨lh, hlh, hne, -⟩ := hl
  rw [Covers, hlh, listenerHostnameMatches, if_neg hne]
  cases hcut : cutPrefix lh "*." with
  | none =>
    -- Without the wildcard prefix the hostname cannot be a wildcard, and equality is all there is.
    have hno : ∀ s, lh ≠ "*." ++ s := by
      intro s hs
      rw [cutPrefix_eq_some.mpr hs] at hcut
      exact absurd hcut (by simp)
    refine ⟨fun heq => Or.inl (congrArg some (by simpa using heq)), ?_⟩
    rintro (heq | ⟨s, heq, -⟩)
    · simpa using heq
    · exact absurd (Option.some.inj heq) (hno s)
  | some s =>
    have hlh' : lh = "*." ++ s := cutPrefix_eq_some.mp hcut
    have hiff : (hasSuffix h ("." ++ s) && decide (h.length > s.length + 1)) = true ↔
        labels s <:+ labels h ∧ labels s ≠ labels h := by
      rw [labels_properSuffix_iff, Bool.and_eq_true, decide_eq_true_eq]
      exact ⟨fun hs => hs.1, fun hs => ⟨hs, length_lt_of_hasSuffix hh hs⟩⟩
    rw [hiff]
    constructor
    · exact fun hs => Or.inr ⟨s, congrArg some hlh', hs⟩
    · rintro (heq | ⟨t, ht, hs⟩)
      · -- The wildcard itself is declared: its labels are those of `s` behind a `*`.
        obtain rfl := Option.some.inj heq
        rw [labels_properSuffix_iff, hlh', hasSuffix_iff, String.toList_append,
          String.toList_append]
        exact ⟨['*'], rfl⟩
      · have hst : "*." ++ s = "*." ++ t := hlh'.symm.trans (Option.some.inj ht)
        have hts : t = s := by
          have := cutPrefix_eq_some.mpr hst
          rw [cutPrefix_eq_some.mpr rfl] at this
          exact (Option.some.inj this).symm
        rwa [hts] at hs

/-- **`gatewayAdmitsRoute`** decides the rule for a well-formed hostname. -/
theorem gatewayAdmitsRoute_iff (hh : WellFormed h) :
    gatewayAdmitsRoute gw route h cfg = true ↔ Admitted gw route.ns cfg.domain h := by
  rw [gatewayAdmitsRoute, Admitted, Bool.and_eq_true, hostnameUnderDomain_iff, List.any_eq_true]
  refine and_congr_right fun _ => exists_congr fun l => and_congr_right fun _ => ?_
  rw [Bool.and_eq_true, Bool.and_eq_true, listenerUnderDomain_iff, allowedRoutesPermits_iff,
    ListenerAdmits]
  exact and_congr_right fun hl => and_congr_left fun _ => listenerHostnameMatches_iff hh hl

/-! ### Collecting without repetition -/

/-- The loop of `admittedHostnames`, over candidates that come with the outcome of their test: what
it collects are the candidates that passed, each where it passed first. -/
theorem foldl_addUnseen {β : Type*} (f : β → Option (String × Bool)) (bs : List β) :
    bs.foldl (fun out b => match f b with | none => out | some (h, p) => addUnseen p out h) [] =
      (bs.filterMap fun b => (f b).bind fun hp => if hp.2 then some hp.1 else none).eraseDups := by
  induction bs using List.reverseRecOn with
  | nil => rfl
  | append_singleton bs b ih =>
    rw [List.foldl_append, List.filterMap_append, List.eraseDups_append, List.foldl_cons,
      List.foldl_nil, ih]
    generalize bs.filterMap _ = seen
    rcases hb : f b with _ | ⟨h, p⟩
    · simp [List.removeAll, hb]
    · cases p with
      | false => simp [List.removeAll, hb, addUnseen]
      | true =>
        by_cases hseen : h ∈ seen
        · simp [List.removeAll, hb, addUnseen, List.mem_eraseDups, hseen]
        · simp [List.removeAll, hb, addUnseen, List.mem_eraseDups, hseen, List.eraseDups_cons]

theorem nodup_eraseDups {α : Type*} [BEq α] [LawfulBEq α] (as : List α) : as.eraseDups.Nodup := by
  induction as using List.reverseRecOn with
  | nil => exact List.nodup_nil
  | append_singleton as a ih =>
    rw [List.eraseDups_append]
    by_cases ha : a ∈ as
    · simpa [List.removeAll, ha] using ih
    · refine List.nodup_append.mpr ⟨ih, by simp [List.removeAll, ha, List.eraseDups_cons], ?_⟩
      intro x hx y hy
      obtain rfl : y = a := by simpa [List.removeAll, ha, List.eraseDups_cons] using hy
      exact fun hxy => ha (hxy ▸ List.mem_eraseDups.mp hx)

theorem admittedHostnames_declared (hdecl : route.hostnames ≠ []) :
    admittedHostnames gw route cfg =
      (route.hostnames.filter fun h => gatewayAdmitsRoute gw route h cfg).eraseDups := by
  rw [admittedHostnames, if_pos hdecl]
  have hloop := foldl_addUnseen (fun h => some (h, gatewayAdmitsRoute gw route h cfg))
    route.hostnames
  dsimp only at hloop
  rw [hloop, ← List.filterMap_eq_filter]
  rfl

/-- The hostname of a listener that passes the tests for a route without hostnames. -/
def offered (gw : Gateway) (ns domain : String) (l : Listener) : Option String :=
  (inheritedHostname l).bind fun h =>
    if hostnameUnderDomain h domain && allowedRoutesPermits gw l ns then some h else none

theorem admittedHostnames_inherited (hdecl : route.hostnames = []) :
    admittedHostnames gw route cfg =
      (gw.listeners.filterMap (offered gw route.ns cfg.domain)).eraseDups := by
  have hloop := foldl_addUnseen (fun l => (inheritedHostname l).map fun h =>
    (h, hostnameUnderDomain h cfg.domain && allowedRoutesPermits gw l route.ns)) gw.listeners
  rw [admittedHostnames, if_neg (by simp [hdecl])]
  refine Eq.trans ?_ (hloop.trans ?_)
  · congr 1
    funext out l
    cases inheritedHostname l <;> rfl
  · congr 2
    funext l
    rw [offered, Option.bind_map]
    rfl

theorem inheritedHostname_eq_some :
    inheritedHostname l = some h ↔ l.hostname = some h ∧ h ≠ "" ∧ hasPrefix h "*." = false := by
  rw [inheritedHostname]
  cases l.hostname with
  | none => simp
  | some lh =>
    dsimp only
    split
    · next hpass =>
      refine ⟨fun hf => absurd hf (by simp), ?_⟩
      rintro ⟨heq, hne, hpre⟩
      obtain rfl := Option.some.inj heq
      exact absurd hpass (by simp [hne, hpre])
    · next hpass =>
      rw [not_or, Bool.not_eq_true] at hpass
      refine ⟨fun heq => ⟨heq, ?_⟩, fun hh => hh.1⟩
      obtain rfl := Option.some.inj heq
      exact hpass

/-- `offered` decides `ListenerOffers`. -/
theorem offered_eq_some : offered gw ns domain l = some h ↔ ListenerOffers gw ns domain h l := by
  have htest : ∀ {lh}, ((if hostnameUnderDomain lh domain && allowedRoutesPermits gw l ns then
      some lh else none) = some h) ↔ lh = h ∧ labels domain <:+ labels h ∧ Permits gw l ns := by
    intro lh
    rw [Option.ite_none_right_eq_some, Bool.and_eq_true, hostnameUnderDomain_iff,
      allowedRoutesPermits_iff, Option.some.injEq, and_comm]
    exact and_congr_right fun heq => by rw [heq]
  rw [offered, Option.bind_eq_some_iff, ListenerOffers]
  constructor
  · rintro ⟨lh, hlh, hif⟩
    obtain ⟨rfl, hpass⟩ := htest.mp hif
    obtain ⟨hl, hne, hpre⟩ := inheritedHostname_eq_some.mp hlh
    exact ⟨hl, hne, hpre, hpass⟩
  · rintro ⟨hl, hne, hpre, hpass⟩
    exact ⟨h, inheritedHostname_eq_some.mpr ⟨hl, hne, hpre⟩, htest.mpr ⟨rfl, hpass⟩⟩

/-- What a listener offers is under the domain, and so is the listener. -/
theorem ListenerOffers.under (hl : ListenerOffers gw ns domain h l) : Under domain l := by
  obtain ⟨hlh, hne, hpre, hsuffix, -⟩ := hl
  refine ⟨h, hlh, hne, ?_⟩
  rwa [trimPrefix, cutPrefix_eq_none.mpr hpre]

/-! ### Only listeners under the domain count -/

/-- Leaving out listeners that are not under the domain changes nothing. -/
theorem admittedHostnames_under (gw : Gateway) (route : HTTPRoute) (cfg : GatewayProxy) :
    admittedHostnames
        { gw with listeners := gw.listeners.filter fun l => listenerUnderDomain l cfg.domain }
        route cfg = admittedHostnames gw route cfg := by
  by_cases hdecl : route.hostnames = []
  · rw [admittedHostnames_inherited hdecl, admittedHostnames_inherited hdecl, List.filterMap_filter]
    congr 2
    funext l
    split
    · rfl
    · next hl =>
      refine (Option.eq_none_iff_forall_ne_some.mpr fun h hof => hl ?_).symm
      exact listenerUnderDomain_iff.mpr (offered_eq_some.mp hof).under
  · rw [admittedHostnames_declared hdecl, admittedHostnames_declared hdecl]
    congr 2
    funext h
    rw [gatewayAdmitsRoute, gatewayAdmitsRoute, List.any_filter]
    congr 2
    funext l
    cases listenerUnderDomain l cfg.domain <;> rfl

/-- The listener a configuration is read off is under its domain. -/
theorem under_of_proxyOfListener (hcfg : proxyOfListener l = some cfg) : Under cfg.domain l := by
  rw [proxyOfListener] at hcfg
  split at hcfg
  · split at hcfg
    · next hostname tls hl _ =>
      split at hcfg
      · exact absurd hcfg (by simp)
      · split at hcfg
        · exact absurd hcfg (by simp)
        · next hne =>
          obtain rfl := Option.some.inj hcfg
          exact ⟨hostname, hl, hne, List.suffix_refl _⟩
    · exact absurd hcfg (by simp)
  · exact absurd hcfg (by simp)

/-- Without the listeners that are not under its domain, the configuration is the same. -/
theorem gatewayProxyConfig_under (hcfg : gatewayProxyConfig gw = some cfg) :
    gatewayProxyConfig
      { gw with listeners := gw.listeners.filter fun l => listenerUnderDomain l cfg.domain } =
        some cfg := by
  rw [gatewayProxyConfig] at hcfg ⊢
  dsimp only
  generalize gw.listeners = ls at hcfg
  induction ls with
  | nil => exact absurd hcfg (by simp)
  | cons l ls ih =>
    rw [List.findSome?_cons] at hcfg
    cases hl : proxyOfListener l with
    | some c =>
      rw [hl] at hcfg
      obtain rfl := Option.some.inj hcfg
      have hunder := listenerUnderDomain_iff.mpr (under_of_proxyOfListener hl)
      rw [List.filter_cons, if_pos hunder, List.findSome?_cons, hl]
    | none =>
      rw [hl] at hcfg
      by_cases hunder : listenerUnderDomain l cfg.domain = true
      · rw [List.filter_cons, if_pos hunder, List.findSome?_cons, hl]
        exact ih hcfg
      · rw [List.filter_cons, if_neg hunder]
        exact ih hcfg

open Classical in
/-- **Admission is exact and label-aligned.** For a Gateway with a proxy configuration and a route
with well-formed hostnames: a route that declares hostnames gets those that are `Admitted`, each
once, in the order they are first declared; a route that declares none gets the concrete hostnames
its listeners offer it, each once, in listener order. Listeners that are not under the domain make
no difference, neither to the result nor to the configuration. -/
theorem admittedHostnames_exact (gw : Gateway) (route : HTTPRoute) (cfg : GatewayProxy)
    (hcfg : gatewayProxyConfig gw = some cfg) (hform : ∀ h ∈ route.hostnames, WellFormed h) :
    (route.hostnames ≠ [] → admittedHostnames gw route cfg =
      (route.hostnames.filter fun h => Admitted gw route.ns cfg.domain h).eraseDups) ∧
    (route.hostnames = [] → admittedHostnames gw route cfg =
      (gw.listeners.filterMap fun l =>
        l.hostname.filter fun h => ListenerOffers gw route.ns cfg.domain h l).eraseDups) ∧
    (∀ ls, ls.filter (fun l => Under cfg.domain l) =
        gw.listeners.filter (fun l => Under cfg.domain l) →
      admittedHostnames { gw with listeners := ls } route cfg = admittedHostnames gw route cfg) ∧
    gatewayProxyConfig
      { gw with listeners := gw.listeners.filter fun l => Under cfg.domain l } = some cfg := by
  have hunder :
      (fun l => decide (Under cfg.domain l)) = fun l => listenerUnderDomain l cfg.domain := by
    funext l
    rw [Bool.eq_iff_iff, decide_eq_true_iff, listenerUnderDomain_iff]
  refine ⟨fun hdecl => ?_, fun hdecl => ?_, fun ls hls => ?_, ?_⟩
  · rw [admittedHostnames_declared hdecl]
    congr 1
    refine List.filter_congr fun h hh => ?_
    rw [Bool.eq_iff_iff, decide_eq_true_iff, gatewayAdmitsRoute_iff (hform h hh)]
  · rw [admittedHostnames_inherited hdecl]
    congr 2
    funext l
    refine Option.ext fun h => ?_
    rw [offered_eq_some, Option.filter_eq_some_iff, decide_eq_true_iff]
    exact ⟨fun hl => ⟨hl.1, hl⟩, fun hl => hl.2⟩
  · rw [hunder] at hls
    have hgw := admittedHostnames_under gw route cfg
    have hls' := admittedHostnames_under { gw with listeners := ls } route cfg
    dsimp only at hls'
    rw [← hgw, ← hls', hls]
  · rw [hunder]
    exact gatewayProxyConfig_under hcfg

/-- A Gateway with a wildcard listener for its own namespace and a catch-all for everybody. -/
def sampleGateway : Gateway :=
  ⟨"edge", "main", "netbird",
    [⟨"redirect", none, 80, .http, none, some ⟨some ⟨some .all⟩⟩⟩,
      ⟨"proxy", some "*.foo.com", 443, .https, some ⟨["cert"]⟩, none⟩]⟩

def sampleRoute : HTTPRoute :=
  ⟨"edge", "shop", 1, [], ["shop.foo.com", "evilfoo.com", "shop.foo.com"], [], []⟩

open Classical in
/-- Of a name under the domain, a look-alike and a repetition, the first is admitted. -/
theorem admittedHostnames_exact_sample :
    (sampleRoute.hostnames.filter fun h => Admitted sampleGateway "edge" "foo.com" h).eraseDups =
      ["shop.foo.com"] := by
  have hexact := (admittedHostnames_exact sampleGateway sampleRoute
    ⟨"foo.com", "gate.foo.com", "cert", "proxy"⟩ (by decide)
    (by unfold WellFormed; decide)).1 (by decide)
  refine hexact.symm.trans ?_
  decide

end GatewayAPI

end NetbirdOperator
