import Stagecraft.Proofs.Pools
import Stagecraft.Proofs.Reports

/-!
# Addresses that lead nowhere

Whatever a load comes to is reported with its address, if it is of a kind that is expected. What is
not reported are addresses that are none in the first place, which are those whose authority cannot
be one and those of files whose names would hold the character NUL, and what sites, readers and
decoders raise in a way of their own. An attribute strays when it leads to such an address.
-/

namespace Stagecraft

open Markup

namespace Url

/-- What stands at the place of the authority in an address. -/
def authorityOf (s : String) : List Char :=
  let cs := (s.toList.dropWhile fun c => c.toNat ≤ 32).filter fun c =>
    c ≠ '\t' && c ≠ '\x0d' && c ≠ '\n'
  (splitAuthority (((scheme? cs).map (·.2)).getD cs)).1

/-- The authority of an address cannot be one. -/
def Misformed (s : String) : Prop := isAuthority (authorityOf s) = false

/-- Taking an address apart fails on its authority only. -/
theorem ofChars_eq_error {scheme : List Char} {s : String} {f : Fault}
    (h : ofChars scheme s.toList = .error f) : f = .badValue ∧ Misformed s := by
  have hauthority : ofChars scheme s.toList = .error f →
      f = .badValue ∧ isAuthority (authorityOf s) = false := by
    unfold ofChars authorityOf
    dsimp only
    cases scheme? ((s.toList.dropWhile fun c => c.toNat ≤ 32).filter fun c =>
      c ≠ '\t' && c ≠ '\x0d' && c ≠ '\n') with
    | none =>
        dsimp only [Option.getD_none, Option.map_none]
        intro h
        split at h
        · rename_i hnot
          cases h
          exact ⟨rfl, by simpa using hnot⟩
        · cases h
    | some r =>
        dsimp only [Option.getD_some, Option.map_some]
        intro h
        split at h
        · rename_i hnot
          cases h
          exact ⟨rfl, by simpa using hnot⟩
        · cases h
  exact hauthority h

theorem join_eq_error {base reference : String} {f : Fault} (h : join base reference = .error f) :
    f = .badValue ∧ (Misformed base ∨ Misformed reference) := by
  unfold join at h
  split at h
  · cases h
  · split at h
    · cases h
    · rcases Attempt.bind_eq_error_iff.1 h with h | ⟨b, -, h⟩
      · exact (ofChars_eq_error h).imp_right .inl
      · rcases Attempt.bind_eq_error_iff.1 h with h | ⟨r, -, h⟩
        · exact (ofChars_eq_error h).imp_right .inr
        · dsimp only at h
          split at h
          · cases h
          · split at h
            · cases h
            · split at h <;> cases h

end Url

namespace Storage

/-- Nothing can be at an address. -/
def Unaddressable (url : String) : Prop :=
  Url.Misformed url ∨ ∃ path, sourceOf url = .ok (.file path) ∧ Char.ofNat 0 ∈ path.toList

theorem sourceOf_eq_error {url : String} {f : Fault} (h : sourceOf url = .error f) :
    f = .badValue ∧ Url.Misformed url := by
  unfold sourceOf at h
  rcases Attempt.bind_eq_error_iff.1 h with h | ⟨u, -, h⟩
  · exact Url.ofChars_eq_error h
  · dsimp only at h
    split at h
    · cases h
    · split at h <;> cases h

end Storage

namespace Loader

variable {α : Type} (l : Loader)

/-- What is loaded from an address is put to a use, and that fails without being expected: nothing
can be at the address, or the site or the use raises something of its own kind. -/
inductive Refuses (url : String) (use : Content → Except Refusal α) : Fault → Prop
  | nowhere (h : Storage.Unaddressable url) : Refuses url use .badValue
  | site {address kind : String} (hsource : Storage.sourceOf url = .ok (.site address))
      (h : l.answer l.settings.http address = .error (.foreign kind)) :
      Refuses url use (.foreign kind)
  | content {c : Content} {kind : String} (hc : (l.fetch url).run.1 = .ok c)
      (h : use c = .error (.foreign kind)) : Refuses url use (.foreign kind)

/-- Sounds are not looked into. -/
def listen (c : Content) : Except Refusal Content := .ok c

variable {l} {url : String} {use : Content → Except Refusal α} {f : Fault}

theorem Refuses.isLocal (h : l.Refuses url use f) : f.isLocal := by
  cases h with
  | nowhere _ => rfl
  | site _ _ => rfl
  | content _ _ => rfl

/-- What fails for those who only want the content fails for everybody. -/
theorem Refuses.of_listen (h : l.Refuses url listen f) : l.Refuses url use f := by
  cases h with
  | nowhere h => exact .nowhere h
  | site hsource h => exact .site hsource h
  | content _ h => cases h

theorem failsIn_content {source : Storage.Source} (hsource : Storage.sourceOf url = .ok source) :
    Attempt.FailsIn (Fault.SingleOr (l.Refuses url listen)) (l.content url source) := by
  intro f h
  cases source with
  | site address =>
      obtain ⟨refusal, hanswer, rfl⟩ := Attempt.mapError_eq_error_iff.1 h
      cases refusal with
      | expected reason => exact .inl rfl
      | foreign kind => exact .inr (.site hsource hanswer)
  | file path =>
      unfold content at h
      dsimp only at h
      split at h
      · rename_i hnul
        cases h
        exact .inr (.nowhere (.inr ⟨path, hsource, by simpa using hnul⟩))
      · obtain ⟨reason, -, rfl⟩ := Attempt.mapError_eq_error_iff.1 h
        exact .inl rfl

theorem failsIn_fetch (url : String) :
    Timed.FailsIn (Fault.SingleOr (l.Refuses url listen)) (l.fetch url) := by
  refine Timed.FailsIn.bind (.lift fun f h => ?_) fun source s hsource =>
    .load _ (failsIn_content hsource)
  obtain ⟨rfl, hurl⟩ := Storage.sourceOf_eq_error h
  exact .inr (.nowhere (.inl hurl))

/-- What is made of the content fails as expected, or in a way of its own. -/
theorem failsIn_use {content : Content} (hcontent : (l.fetch url).run.1 = .ok content) :
    Attempt.FailsIn (Fault.SingleOr (l.Refuses url use))
      ((use content).mapError (·.fault url)) := by
  intro f h
  obtain ⟨refusal, huse, rfl⟩ := Attempt.mapError_eq_error_iff.1 h
  cases refusal with
  | expected reason => exact .inl rfl
  | foreign kind => exact .inr (.content hcontent huse)

theorem failsIn_fetched (url : String) (use : Content → Except Refusal α) (s : Start) :
    Attempt.FailsIn (Fault.SingleOr (l.Refuses url use)) (l.fetch url s).result :=
  (failsIn_fetch url s).mono fun _ => Or.imp_right Refuses.of_listen

variable (l)

theorem failsIn_loadDocument (url : String) :
    Timed.FailsIn (Fault.ReportedOr (l.Refuses url (l.read url))) (l.loadDocument url) := by
  refine Timed.FailsIn.bind (fun s => (failsIn_fetched url _ s).mono Fault.SingleOr.reportedOr)
    fun content s hcontent => Timed.FailsIn.bind (.lift ?_) fun _ _ _ => .pure _
  exact (failsIn_use ((l.steady_fetch url).run hcontent)).mono Fault.SingleOr.reportedOr

theorem failsIn_loadPicture (url : String) :
    Timed.FailsIn (Fault.SingleOr (l.Refuses url l.decode)) (l.loadPicture url) :=
  Timed.FailsIn.tracked <| Timed.FailsIn.bind (failsIn_fetched url _) fun _ _ hcontent =>
    .load _ (failsIn_use ((l.steady_fetch url).run hcontent))

theorem failsIn_loadClip (url : String) :
    Timed.FailsIn (Fault.SingleOr (l.Refuses url listen)) (l.loadClip url) :=
  Timed.FailsIn.tracked <| Timed.FailsIn.bind (failsIn_fetch url) fun _ _ _ => .pure _

/-- An attribute refers to an address that cannot be one, or that cannot be put to a use. -/
inductive Strays (c : Cursor) (name : String) (use : String → Content → Except Refusal α) :
    Fault → Prop
  | misformed {reference : String} (hreference : c.get? name = some reference)
      (h : Url.Misformed reference) : Strays c name use .badValue
  | base {reference base : String} (hreference : c.get? name = some reference)
      (hne : reference ≠ "") (hbase : (c.url.filter (· ≠ "")).or l.settings.baseUrl = some base)
      (h : Url.Misformed base) : Strays c name use .badValue
  | target {url : String} {f : Fault} (hurl : l.resolve c name = .ok (some url))
      (h : l.Refuses url (use url) f) : Strays c name use f

/-- A reference to a document strays. -/
abbrev StraysToDocument (c : Cursor) : Fault → Prop := l.Strays c "src" l.read

/-- A reference to a sound strays. -/
abbrev StraysToSound (c : Cursor) : Fault → Prop := l.Strays c "src" fun _ => listen

/-- A reference to a picture strays. -/
abbrev StraysToPicture (c : Cursor) : Fault → Prop := l.Strays c "url" fun _ => l.decode

variable {l} {c : Cursor} {name : String} {use : String → Content → Except Refusal α}

theorem Strays.isLocal {f : Fault} (h : l.Strays c name use f) : f.isLocal := by
  cases h with
  | misformed _ _ => rfl
  | base _ _ _ _ => rfl
  | target _ h => exact h.isLocal

theorem failsIn_resolve : Attempt.FailsIn (l.Strays c name use) (l.resolve c name) := by
  unfold resolve
  split
  · exact .ok _
  · rename_i reference hreference
    obtain ⟨hget, hne⟩ := Option.filter_eq_some_iff.1 hreference
    split
    · exact .ok _
    · rename_i base hbase
      split
      · exact .ok _
      · refine Attempt.FailsIn.map fun f h => ?_
        obtain ⟨rfl, hb | hr⟩ := Url.join_eq_error h
        · exact .base hget (by simpa using hne) hbase hb
        · exact .misformed hget hr

/-- What is done with an address that an attribute refers to, or without one. -/
theorem failsIn_resolved {β : Type} {P : Fault → Prop} (found : String → Timed β)
    {absent : Timed β} (hstrays : ∀ f, l.Strays c name use f → P f)
    (hfound : ∀ url, l.resolve c name = .ok (some url) → Timed.FailsIn P (found url))
    (habsent : Timed.FailsIn P absent) :
    Timed.FailsIn P (do
      match ← l.resolve c name with
      | some url => found url
      | none => absent) := by
  refine Timed.FailsIn.bind (.lift (failsIn_resolve.mono hstrays)) ?_
  intro url s hurl
  cases url with
  | none => exact habsent
  | some url => exact hfound url hurl

variable (l)

theorem failsIn_follow (c : Cursor) :
    Timed.FailsIn (Fault.ReportedOr (l.StraysToDocument c)) (l.follow c) := by
  refine failsIn_resolved l.loadDocument (fun _ hf => .inr hf) (fun url hurl s => ?_) (.pure c)
  exact (l.failsIn_loadDocument url s).mono (Fault.ReportedOr.mono fun _ => .target hurl)

theorem failsIn_clipOf (c : Cursor) :
    Timed.FailsIn (Fault.SingleOr (l.StraysToSound c)) (l.clipOf c) := by
  refine failsIn_resolved l.loadClip (fun _ hf => .inr hf) (fun url hurl s => ?_)
    (.lift (.error (.inl rfl)))
  refine (l.failsIn_loadClip url s).mono fun f => Or.imp_right fun hf => ?_
  exact Strays.target hurl hf

theorem failsIn_pictureOf (c : Cursor) :
    Timed.FailsIn (Fault.SingleOr (l.StraysToPicture c)) (l.pictureOf c) := by
  refine failsIn_resolved l.loadPicture (fun _ hf => .inr hf) (fun url hurl s => ?_)
    (.lift (.error (.inl rfl)))
  refine (l.failsIn_loadPicture url s).mono fun f => Or.imp_right fun hf => ?_
  exact Strays.target hurl hf

end Loader

end Stagecraft
