import SecondFactor.Origin.Rule
import SecondFactor.Proofs.Except

/-!
Which pages may use which application ids. The rule looks at nothing but the scheme and the host of
each, and accepts ids on hosts that the page's own host lies below, label by label, which makes it
an order (`check_orders_sites`). Pages of the web are accepted under `https` alone, but those of the
local machine under any scheme (`check_secure_iff`).
-/

namespace SecondFactor

/-- Where a page or an application id is: its scheme, and its host as text. -/
@[ext]
structure Site where
  scheme : List Char
  host : List Char
deriving DecidableEq

namespace Site

/-- The site of a URL that names a host. -/
def of? (text : String) : Option Site := do
  let url ← Url.parse? text.toList
  let host ← url.host
  return ⟨url.scheme, host.text⟩

/-- The names between the dots of the host. -/
def labels (site : Site) : List (List Char) :=
  site.host.splitOn '.'

theorem intercalate_labels (site : Site) : ['.'].intercalate site.labels = site.host :=
  List.intercalate_splitOn '.'

end Site

/-! Hosts below hosts. -/

/-- In a host the last labels stand behind a dot, unless they are all. -/
theorem exists_intercalate_append (front back : List (List Char)) (hfront : front ≠ [])
    (hback : back ≠ []) :
    ∃ before, ['.'].intercalate (front ++ back) = before ++ '.' :: ['.'].intercalate back := by
  induction front with
  | nil => contradiction
  | cons label rest ih =>
      by_cases hrest : rest = []
      · subst hrest
        refine ⟨label, ?_⟩
        rw [List.cons_append, List.nil_append, List.intercalate_cons_of_ne_nil hback]
        simp
      · obtain ⟨before, hbefore⟩ := ih hrest
        refine ⟨label ++ '.' :: before, ?_⟩
        rw [List.cons_append, List.intercalate_cons_of_ne_nil (by simp [hrest]), hbefore]
        simp

namespace OriginRule

/-- A host lies below another by whole labels. -/
theorem isWithin_iff_suffix {host parent : List Char} :
    isWithin host parent = true ↔ parent.splitOn '.' <:+ host.splitOn '.' := by
  simp only [isWithin, Bool.or_eq_true, decide_eq_true_eq, List.isSuffixOf_iff_suffix]
  constructor
  · rintro (rfl | ⟨before, rfl⟩)
    · exact List.suffix_rfl
    · rw [List.splitOn_append_cons_self]
      exact List.suffix_append _ _
  · rintro ⟨front, hfront⟩
    have hhost : ['.'].intercalate (host.splitOn '.') = host := List.intercalate_splitOn '.'
    rw [← hfront] at hhost
    by_cases hall : front = []
    · subst hall
      rw [List.nil_append, List.intercalate_splitOn] at hhost
      exact Or.inl hhost.symm
    · obtain ⟨before, hbefore⟩ :=
        exists_intercalate_append front (parent.splitOn '.') hall (List.splitOn_ne_nil '.' parent)
      rw [hbefore, List.intercalate_splitOn] at hhost
      exact Or.inr ⟨before, hhost⟩

theorem haveSameOwner_iff {registry : Registry} {host other : List Char} :
    haveSameOwner registry host other = true ↔
      ∃ domain, registry host = some domain ∧ registry other = some domain := by
  unfold haveSameOwner
  cases registry host with
  | none => simp
  | some domain =>
      cases registry other with
      | none => simp
      | some otherDomain => simp [eq_comm]

/-- The rule, on sites. -/
inductive Permits (rule : OriginRule) (app page : Site) : Prop
  | thisMachine : rule.allowsLocalhost = true → page.host = localhost → app = page →
      Permits rule app page
  | owned (domain : List Char) : page.host ≠ localhost → page.scheme = "https".toList →
      app.scheme = page.scheme → rule.registry app.host = some domain →
        rule.registry page.host = some domain → app.labels <:+ page.labels →
          Permits rule app page

theorem permits_iff {rule : OriginRule} {app page : Site} :
    rule.Permits app page ↔
      app.scheme = page.scheme ∧ rule.acceptsHosts page.scheme app.host page.host = true := by
  unfold acceptsHosts
  constructor
  · rintro (⟨hallows, hhost, rfl⟩ | ⟨domain, hhost, hscheme, hsame, happ, hpage, hlabels⟩)
    · simp [hallows, hhost]
    · refine ⟨hsame, ?_⟩
      rw [if_neg hhost]
      simp only [Bool.and_eq_true, decide_eq_true_eq]
      exact ⟨⟨hscheme, haveSameOwner_iff.2 ⟨domain, happ, hpage⟩⟩, isWithin_iff_suffix.2 hlabels⟩
  · rintro ⟨hsame, haccepts⟩
    by_cases hhost : page.host = localhost
    · rw [if_pos hhost] at haccepts
      simp only [Bool.and_eq_true, decide_eq_true_eq] at haccepts
      exact .thisMachine haccepts.1 hhost (Site.ext hsame haccepts.2)
    · rw [if_neg hhost] at haccepts
      simp only [Bool.and_eq_true, decide_eq_true_eq] at haccepts
      obtain ⟨⟨hscheme, howner⟩, hwithin⟩ := haccepts
      obtain ⟨domain, happ, hpage⟩ := haveSameOwner_iff.1 howner
      exact .owned domain hhost hscheme hsame happ hpage (isWithin_iff_suffix.1 hwithin)

theorem check_eq_ok_iff_accepts {rule : OriginRule} {appId origin : String} :
    rule.check appId origin = .ok () ↔ rule.accepts appId origin = true := by
  unfold check
  split <;> simp_all

theorem check_eq_ok_iff {rule : OriginRule} {appId origin : String} :
    rule.check appId origin = .ok () ↔
      ∃ app page, Site.of? appId = some app ∧ Site.of? origin = some page ∧
        rule.Permits app page := by
  rw [check_eq_ok_iff_accepts]
  unfold accepts acceptsUrls Site.of?
  cases Url.parse? appId.toList with
  | none => simp
  | some appUrl =>
      cases Url.parse? origin.toList with
      | none => simp
      | some url =>
          cases happ : appUrl.host with
          | none => simp [happ]
          | some appHost =>
              cases hpage : url.host with
              | none => simp [hpage]
              | some host => simp [happ, hpage, permits_iff]

/-! The order of the sites. -/

namespace Permits

variable {rule : OriginRule} {app page lower : Site}

theorem labels_suffix (hpermits : rule.Permits app page) : app.labels <:+ page.labels := by
  cases hpermits with
  | thisMachine _ _ hsame =>
      subst hsame
      exact List.suffix_rfl
  | owned _ _ _ _ _ _ hlabels => exact hlabels

theorem scheme_eq (hpermits : rule.Permits app page) : app.scheme = page.scheme := by
  cases hpermits with
  | thisMachine _ _ hsame => rw [hsame]
  | owned _ _ _ hscheme _ _ _ => exact hscheme

theorem exists_owner (hpermits : rule.Permits app page) (hhost : page.host ≠ localhost) :
    ∃ domain, rule.registry app.host = some domain ∧ rule.registry page.host = some domain := by
  cases hpermits with
  | thisMachine _ hlocal _ => contradiction
  | owned domain _ _ _ happ hpage _ => exact ⟨domain, happ, hpage⟩

theorem trans (hupper : rule.Permits app page) (hlower : rule.Permits page lower) :
    rule.Permits app lower := by
  cases hlower with
  | thisMachine _ _ hsame => rwa [← hsame]
  | owned domain hhost hscheme hsame hpage howner hlabels =>
      cases hupper with
      | thisMachine hallows hlocal heq =>
          rw [heq]
          exact .owned domain hhost hscheme hsame hpage howner hlabels
      | owned other _ _ hupperSame happ hupperPage hupperLabels =>
          obtain rfl : other = domain := Option.some.inj (hupperPage.symm.trans hpage)
          exact .owned other hhost hscheme (hupperSame.trans hsame) happ howner
            (hupperLabels.trans hlabels)

theorem antisymm (hforth : rule.Permits app page) (hback : rule.Permits page app) :
    app = page := by
  have hlabels : app.labels = page.labels :=
    hforth.labels_suffix.eq_of_length_le hback.labels_suffix.length_le
  have hhost : app.host = page.host := by
    rw [← app.intercalate_labels, hlabels, page.intercalate_labels]
  exact Site.ext hforth.scheme_eq hhost

end Permits

/-- Pages may use the ids of their own host and of those above it with the same registrant, which is
an order on the sites. Ports, paths and everything else of the two URLs do not matter. -/
theorem check_orders_sites (rule : OriginRule) :
    (∀ appId origin, rule.check appId origin = .ok () →
      ∃ app page, Site.of? appId = some app ∧ Site.of? origin = some page ∧
        app.labels <:+ page.labels ∧
        (page.host ≠ localhost →
          ∃ domain, rule.registry app.host = some domain ∧
            rule.registry page.host = some domain)) ∧
    (∀ appId appId' origin origin', Site.of? appId = Site.of? appId' →
      Site.of? origin = Site.of? origin' →
        (rule.check appId origin = .ok () ↔ rule.check appId' origin' = .ok ())) ∧
    (∀ upper middle lower, rule.check upper middle = .ok () → rule.check middle lower = .ok () →
      rule.check upper lower = .ok ()) ∧
    (∀ one other, rule.check one other = .ok () → rule.check other one = .ok () →
      ∃ site, Site.of? one = some site ∧ Site.of? other = some site) := by
  refine ⟨?_, ?_, ?_, ?_⟩
  · intro appId origin haccepted
    obtain ⟨app, page, happ, hpage, hpermits⟩ := check_eq_ok_iff.1 haccepted
    exact ⟨app, page, happ, hpage, hpermits.labels_suffix, hpermits.exists_owner⟩
  · intro appId appId' origin origin' happ horigin
    rw [check_eq_ok_iff, check_eq_ok_iff, happ, horigin]
  · intro upper middle lower hupper hlower
    obtain ⟨app, page, happ, hpage, hpermits⟩ := check_eq_ok_iff.1 hupper
    obtain ⟨page', below, hpage', hbelow, hpermits'⟩ := check_eq_ok_iff.1 hlower
    obtain rfl : page = page' := Option.some.inj (hpage.symm.trans hpage')
    exact check_eq_ok_iff.2 ⟨app, below, happ, hbelow, hpermits.trans hpermits'⟩
  · intro one other hforth hback
    obtain ⟨app, page, happ, hpage, hpermits⟩ := check_eq_ok_iff.1 hforth
    obtain ⟨page', app', hpage', happ', hpermits'⟩ := check_eq_ok_iff.1 hback
    obtain rfl : page = page' := Option.some.inj (hpage.symm.trans hpage')
    obtain rfl : app = app' := Option.some.inj (happ.symm.trans happ')
    exact ⟨app, happ, hpermits.antisymm hpermits' ▸ hpage⟩

theorem check_orders_sites_logins :
    (⟨Registry.builtIn, false⟩ : OriginRule).check "https://b.co.uk" "https://a.login.b.co.uk" =
      .ok () :=
  (check_orders_sites ⟨Registry.builtIn, false⟩).2.2.1 "https://b.co.uk" "https://login.b.co.uk/x"
    "https://a.login.b.co.uk" (eq_ok_of_toOption_eq_some (by decide +kernel))
      (eq_ok_of_toOption_eq_some (by decide +kernel))

/-! Schemes. -/

/-- Both under `https`, or both the local machine under `http` where that is allowed. -/
def IsSecure (rule : OriginRule) (app page : Site) : Prop :=
  (app.scheme = "https".toList ∧ page.scheme = "https".toList) ∨
    (rule.allowsLocalhost = true ∧ app.scheme = "http".toList ∧ page.scheme = "http".toList ∧
      app.host = localhost ∧ page.host = localhost)

/-- The local machine under one scheme that is neither of these two. -/
structure IsOtherLocal (rule : OriginRule) (app page : Site) : Prop where
  allows : rule.allowsLocalhost = true
  same : app = page
  host : page.host = localhost
  ne_http : page.scheme ≠ "http".toList
  ne_https : page.scheme ≠ "https".toList

variable {rule : OriginRule} {app page : Site}

theorem Permits.isSecure_or_isOtherLocal (hpermits : rule.Permits app page) :
    rule.IsSecure app page ∨ rule.IsOtherLocal app page := by
  cases hpermits with
  | owned _ _ hscheme hsame _ _ _ => exact .inl (.inl ⟨hsame.trans hscheme, hscheme⟩)
  | thisMachine hallows hhost hsame =>
      subst hsame
      by_cases hhttps : app.scheme = "https".toList
      · exact .inl (.inl ⟨hhttps, hhttps⟩)
      · by_cases hhttp : app.scheme = "http".toList
        · exact .inl (.inr ⟨hallows, hhttp, hhttp, hhost, hhost⟩)
        · exact .inr ⟨hallows, rfl, hhost, hhttp, hhttps⟩

theorem IsOtherLocal.permits (hother : rule.IsOtherLocal app page) : rule.Permits app page :=
  .thisMachine hother.allows hother.host hother.same

theorem IsOtherLocal.not_isSecure (hother : rule.IsOtherLocal app page) :
    ¬ rule.IsSecure app page := by
  rintro (⟨-, hscheme⟩ | ⟨-, -, hscheme, -, -⟩)
  · exact hother.ne_https hscheme
  · exact hother.ne_http hscheme

/-- What is accepted is secure, but for the local machine under another scheme; that is accepted
under every one. -/
theorem check_secure_iff (rule : OriginRule) (appId origin : String) :
    (rule.check appId origin = .ok () →
      ∃ app page, Site.of? appId = some app ∧ Site.of? origin = some page ∧
        (rule.IsSecure app page ↔ ¬ rule.IsOtherLocal app page)) ∧
    ∀ app page, Site.of? appId = some app → Site.of? origin = some page →
      rule.IsOtherLocal app page → rule.check appId origin = .ok () := by
  constructor
  · intro haccepted
    obtain ⟨app, page, happ, hpage, hpermits⟩ := check_eq_ok_iff.1 haccepted
    refine ⟨app, page, happ, hpage, fun hsecure hother => hother.not_isSecure hsecure, ?_⟩
    exact hpermits.isSecure_or_isOtherLocal.resolve_right
  · intro app page happ hpage hother
    exact check_eq_ok_iff.2 ⟨app, page, happ, hpage, hother.permits⟩

/-- Where local pages are allowed, one that was fetched by `ftp` is accepted too. -/
theorem exists_insecure_accepted :
    (⟨Registry.builtIn, true⟩ : OriginRule).check "ftp://localhost" "ftp://localhost" = .ok () ∧
      ¬ ∃ app page, Site.of? "ftp://localhost" = some app ∧
        Site.of? "ftp://localhost" = some page ∧
          (⟨Registry.builtIn, true⟩ : OriginRule).IsSecure app page := by
  have hsite : Site.of? "ftp://localhost" = some ⟨"ftp".toList, localhost⟩ := by
    decide +kernel
  have hother : (⟨Registry.builtIn, true⟩ : OriginRule).IsOtherLocal ⟨"ftp".toList, localhost⟩
      ⟨"ftp".toList, localhost⟩ :=
    ⟨rfl, rfl, rfl, by decide, by decide⟩
  refine ⟨check_eq_ok_iff.2 ⟨_, _, hsite, hsite, hother.permits⟩, ?_⟩
  rintro ⟨app, page, happ, hpage, hsecure⟩
  obtain rfl := Option.some.inj (hsite.symm.trans happ)
  obtain rfl := Option.some.inj (hsite.symm.trans hpage)
  exact hother.not_isSecure hsecure

end OriginRule

end SecondFactor
