import Mathlib.Algebra.Group.Nat.Defs
import PageClip.Proofs.Blank
import PageClip.Proofs.PageResponse

/-! Hosts that are internal. One address of the wrong kind among all that a host resolves to is
enough, so a public address hides nothing and further addresses only make the guard stricter. -/

namespace PageClip

/-- The addresses of a network are those from its base on, as many as the free bits give. -/
def Network.Covers (net : Network) (n : Nat) : Prop := net.base ≤ n ∧ n < net.base + 2 ^ net.free

def Covered (nets : List Network) (n : Nat) : Prop := ∃ net ∈ nets, net.Covers n

def Network.Within (a b : Network) : Prop :=
  b.base ≤ a.base ∧ a.base + 2 ^ a.free ≤ b.base + 2 ^ b.free

def Network.Apart (a b : Network) : Prop :=
  a.base + 2 ^ a.free ≤ b.base ∨ b.base + 2 ^ b.free ≤ a.base

instance (net : Network) (n : Nat) : Decidable (net.Covers n) :=
  inferInstanceAs (Decidable (_ ∧ _))

instance (a b : Network) : Decidable (a.Within b) := inferInstanceAs (Decidable (_ ∧ _))

instance (a b : Network) : Decidable (a.Apart b) := inferInstanceAs (Decidable (_ ∨ _))

/-- Networks that are not for the public, some of them inside others. -/
def privateNetworks4 : List Network :=
  [net4 0 0 0 0 8, net4 10 0 0 0 8, net4 127 0 0 0 8, net4 169 254 0 0 16, net4 172 16 0 0 12,
   net4 192 0 0 0 24, net4 192 0 0 170 31, net4 192 0 2 0 24, net4 192 168 0 0 16,
   net4 198 18 0 0 15, net4 198 51 100 0 24, net4 203 0 113 0 24, net4 240 0 0 0 4,
   net4 255 255 255 255 32]

def privateNetworks6 : List Network :=
  [net6 [0, 0, 0, 0, 0, 0, 0, 1] 128, net6 [] 128, net6 [0, 0, 0, 0, 0, 0xffff] 96,
   net6 [0x64, 0xff9b, 1] 48, net6 [0x100] 64, net6 [0x2001] 23, net6 [0x2001, 0xdb8] 32,
   net6 [0x2002] 16, net6 [0xfc00] 7, net6 [0xfe80] 10]

def reservedNetworks6 : List Network :=
  [net6 [] 8, net6 [0x100] 8, net6 [0x200] 7, net6 [0x400] 6, net6 [0x800] 5, net6 [0x1000] 4,
   net6 [0x4000] 3, net6 [0x6000] 3, net6 [0x8000] 3, net6 [0xa000] 3, net6 [0xc000] 3,
   net6 [0xe000] 4, net6 [0xf000] 5, net6 [0xf800] 6, net6 [0xfe00] 9]

/-- Addresses of the first kind written as addresses of the second. -/
def mappedNetwork : Network := net6 [0, 0, 0, 0, 0, 0xffff] 96

def IsPrivate4 (n : Nat) : Prop := Covered privateNetworks4 n ∧ ¬ Covered public4 n

namespace Address

/-- A mapped address is private when the address it stands for is. -/
def IsPrivate : Address → Prop
  | .v4 n => IsPrivate4 n
  | .v6 n =>
    (mappedNetwork.Covers n ∧ IsPrivate4 (n - mappedNetwork.base)) ∨
      (¬ mappedNetwork.Covers n ∧ Covered privateNetworks6 n ∧ ¬ Covered public6 n)

def IsLoopback : Address → Prop
  | .v4 n => (net4 127 0 0 0 8).Covers n
  | .v6 n => n = 1

def IsLinkLocal : Address → Prop
  | .v4 n => (net4 169 254 0 0 16).Covers n
  | .v6 n => (net6 [0xfe80] 10).Covers n

def IsReserved : Address → Prop
  | .v4 n => (net4 240 0 0 0 4).Covers n
  | .v6 n => Covered reservedNetworks6 n

end Address

/-- The entry is an address, whatever stands behind its first percent sign. -/
def Names (entry : Text) (a : Address) : Prop :=
  ∃ bare, '%' ∉ bare ∧ (entry = bare ∨ ∃ zone, entry = bare ++ '%' :: zone) ∧
    Address.parse? bare = some a

/-- What a host resolves to, nothing when it does not resolve. -/
def Resolver.addresses (dns : Resolver) (host : Text) : List Text := (dns.get? host).getD []

section networks
variable {n : Nat} {a b : Network} {nets nets' : List Network}

theorem covers_of_within (h : a.Within b) (hn : a.Covers n) : b.Covers n := by
  obtain ⟨hlow, hhigh⟩ := h
  obtain ⟨hn₁, hn₂⟩ := hn
  constructor <;> omega

theorem not_covers_of_apart (h : a.Apart b) (hn : a.Covers n) : ¬ b.Covers n := by
  rintro ⟨hb₁, hb₂⟩
  obtain ⟨hn₁, hn₂⟩ := hn
  rcases h with h | h <;> omega

theorem covered_of_within (h : ∀ a ∈ nets, ∃ b ∈ nets', a.Within b) (hn : Covered nets n) :
    Covered nets' n := by
  obtain ⟨a, ha, hn⟩ := hn
  obtain ⟨b, hb, hab⟩ := h a ha
  exact ⟨b, hb, covers_of_within hab hn⟩

theorem not_covered_of_apart (h : ∀ b ∈ nets, a.Apart b) (hn : a.Covers n) :
    ¬ Covered nets n := by
  rintro ⟨b, hb, hcovers⟩
  exact not_covers_of_apart (h b hb) hn hcovers

theorem covered_append : Covered (nets ++ nets') n ↔ Covered nets n ∨ Covered nets' n := by
  simp only [Covered, List.mem_append, or_and_right, exists_or]

theorem contains_iff_covers (h : 2 ^ a.free ∣ a.base) : a.contains n = true ↔ a.Covers n := by
  -- The base has no free bits: comparing the other bits is comparing with both ends.
  obtain ⟨k, hk⟩ := h
  have hpos : 0 < 2 ^ a.free := Nat.two_pow_pos a.free
  rw [Network.contains, Network.Covers, beq_iff_eq, Nat.shiftRight_eq_div_pow,
    Nat.shiftRight_eq_div_pow, hk, Nat.mul_div_cancel_left _ hpos, Nat.div_eq_iff hpos,
    Nat.mul_comm k]
  omega

theorem holds_iff_covered (h : ∀ a ∈ nets, 2 ^ a.free ∣ a.base) :
    holds nets n = true ↔ Covered nets n := by
  rw [holds, List.any_eq_true]
  exact exists_congr fun a => and_congr_right fun ha => contains_iff_covers (h a ha)

end networks

section addresses
variable {n : Nat} {entry : Text} {a : Address}

theorem isInternal_v4_iff : (Address.v4 n).isInternal = true ↔ IsPrivate4 n := by
  have hinternal : holds internal4 n = true ↔ Covered internal4 n :=
    holds_iff_covered (by decide)
  have hpublic : holds public4 n = true ↔ Covered public4 n := holds_iff_covered (by decide)
  have hsame : Covered internal4 n ↔ Covered privateNetworks4 n :=
    ⟨covered_of_within (by decide), covered_of_within (by decide)⟩
  rw [Address.isInternal, Bool.and_eq_true, Bool.not_eq_true', Bool.eq_false_iff, ne_eq, hinternal,
    hpublic, hsame, IsPrivate4]

theorem isPrivate4_of_covers {net : Network} (hin : ∃ b ∈ privateNetworks4, net.Within b)
    (hout : ∀ b ∈ public4, net.Apart b) (hn : net.Covers n) : IsPrivate4 n := by
  obtain ⟨b, hb, hwithin⟩ := hin
  exact ⟨⟨b, hb, covers_of_within hwithin hn⟩, not_covered_of_apart hout hn⟩

theorem isInternal_v6_iff : (Address.v6 n).isInternal = true ↔
    Covered reserved6 n ∨ (Covered private6 n ∧ ¬ Covered public6 n) := by
  have hreserved : holds reserved6 n = true ↔ Covered reserved6 n :=
    holds_iff_covered (by decide)
  have hprivate : holds private6 n = true ↔ Covered private6 n := holds_iff_covered (by decide)
  have hpublic : holds public6 n = true ↔ Covered public6 n := holds_iff_covered (by decide)
  rw [Address.isInternal, Bool.or_eq_true, Bool.and_eq_true, Bool.not_eq_true', Bool.eq_false_iff,
    ne_eq, hreserved, hprivate, hpublic]

theorem isInternal_v6_iff_classes : (Address.v6 n).isInternal = true ↔
    (Address.v6 n).IsPrivate ∨ (Address.v6 n).IsLoopback ∨ (Address.v6 n).IsLinkLocal ∨
      (Address.v6 n).IsReserved := by
  have hreserved : Covered reservedNetworks6 n → Covered reserved6 n :=
    covered_of_within (by decide)
  have hwithin : mappedNetwork.Within (net6 [] 8) := by decide
  have hmapped : mappedNetwork.Covers n → Covered reservedNetworks6 n := fun h =>
    ⟨net6 [] 8, by decide, covers_of_within hwithin h⟩
  rw [isInternal_v6_iff]
  constructor
  · rintro (h | ⟨h, hpublic⟩)
    · have hsplit : Covered (reservedNetworks6 ++ [net6 [0xfe80] 10]) n := h
      rcases covered_append.mp hsplit with hres | ⟨net, hnet, hlocal⟩
      · exact .inr (.inr (.inr hres))
      · obtain rfl := List.mem_singleton.mp hnet
        exact .inr (.inr (.inl hlocal))
    · by_cases hm : mappedNetwork.Covers n
      · exact .inr (.inr (.inr (hmapped hm)))
      · exact .inl (.inr ⟨hm, covered_of_within (by decide) h, hpublic⟩)
  · rintro ((⟨hm, _⟩ | ⟨_, h, hpublic⟩) | h | h | h)
    · exact .inl (hreserved (hmapped hm))
    · have hsplit : Covered (reserved6 ++ private6) n := covered_of_within (by decide) h
      exact (covered_append.mp hsplit).imp_right fun hprivate => ⟨hprivate, hpublic⟩
    · obtain rfl := h
      exact .inl ⟨net6 [] 8, by decide, by decide⟩
    · exact .inl ⟨net6 [0xfe80] 10, by decide, h⟩
    · exact .inl (hreserved h)

theorem isInternal_iff : a.isInternal = true ↔
    a.IsPrivate ∨ a.IsLoopback ∨ a.IsLinkLocal ∨ a.IsReserved := by
  cases a with
  | v4 n =>
    rw [isInternal_v4_iff]
    refine ⟨.inl, ?_⟩
    rintro (h | h | h | h)
    · exact h
    · exact isPrivate4_of_covers (by decide) (by decide) h
    · exact isPrivate4_of_covers (by decide) (by decide) h
    · exact isPrivate4_of_covers (by decide) (by decide) h
  | v6 n => exact isInternal_v6_iff_classes

theorem names_iff : Names entry a ↔ Address.parse? (entry.takeWhile (· != '%')) = some a := by
  constructor
  · rintro ⟨bare, hbare, rfl | ⟨zone, rfl⟩, ha⟩
    · have htake := (takeWhile_append_eq (p := (· != '%')) (a := entry) (b := [])
        (fun c hc => by rw [bne_iff_ne]; rintro rfl; exact hbare hc) (by simp)).1
      rw [List.append_nil] at htake
      rw [htake, ha]
    · rw [(cut_before hbare zone).1, ha]
  · intro h
    refine ⟨_, fun hmem => ?_, ?_, h⟩
    · have hne := List.all_eq_true.mp List.all_takeWhile _ hmem
      simp at hne
    · have hsplit := List.takeWhile_append_dropWhile (p := (· != '%')) (l := entry)
      cases hdrop : entry.dropWhile (· != '%') with
      | nil =>
        rw [hdrop, List.append_nil] at hsplit
        exact .inl hsplit.symm
      | cons c zone =>
        have hc := List.head?_dropWhile_not (· != '%') entry
        rw [hdrop] at hsplit hc
        obtain rfl : c = '%' := by simpa using hc
        exact .inr ⟨zone, hsplit.symm⟩

theorem isInternalText_iff : isInternalText entry = true ↔
    ∃ a, Names entry a ∧ (a.IsPrivate ∨ a.IsLoopback ∨ a.IsLinkLocal ∨ a.IsReserved) := by
  simp only [isInternalText, Option.any_eq_true, names_iff, isInternal_iff]

end addresses

section guard
variable {dns dns' : Resolver} {host url : Text} {e : Rejection}

theorem isInternal_iff_exists : dns.isInternal host = true ↔
    ∃ entry ∈ dns.addresses host, ∃ a, Names entry a ∧
      (a.IsPrivate ∨ a.IsLoopback ∨ a.IsLinkLocal ∨ a.IsReserved) := by
  rw [Resolver.isInternal, List.any_eq_true]
  exact exists_congr fun entry => and_congr_right fun _ => isInternalText_iff

theorem isInternal_mono (h : dns.addresses host ⊆ dns'.addresses host)
    (hdns : dns.isInternal host = true) : dns'.isInternal host = true := by
  obtain ⟨entry, hentry, hinternal⟩ := List.any_eq_true.mp hdns
  exact List.any_eq_true.mpr ⟨entry, h hentry, hinternal⟩

/-- The host of a URL, or what is wrong with the URL whatever its host resolves to. -/
def hostOf (url : Text) : Except Rejection Text := do
  let u ← (Url.split [] url).mapError .malformed
  if !webSchemes.contains u.scheme then throw (.scheme u.scheme)
  if u.host.isEmpty then throw .noHost
  return u.host

theorem checkUrl_eq (dns : Resolver) (url : Text) :
    checkUrl dns url =
      hostOf url >>= fun host => if dns.isInternal host then .error .internal else .ok () := by
  rw [checkUrl, hostOf]
  cases Url.split [] url with
  | error f => rfl
  | ok u =>
    dsimp only [Except.mapError, bind, Except.bind]
    cases webSchemes.contains u.scheme with
    | false => rfl
    | true => cases u.host.isEmpty <;> rfl

theorem checkUrl_error_mono (h : ∀ host, dns.addresses host ⊆ dns'.addresses host)
    (he : checkUrl dns url = .error e) : checkUrl dns' url = .error e := by
  rw [checkUrl_eq, bind_eq_error] at he ⊢
  rcases he with he | ⟨host, hhost, he⟩
  · exact .inl he
  · refine .inr ⟨host, hhost, ?_⟩
    split at he
    · rename_i hinternal
      rw [if_pos (isInternal_mono (h host) hinternal)]
      exact he
    · cases he

theorem checkUrl_ok_mono (hok : checkUrl dns url = .ok ()) :
    checkUrl dns' url = .ok () ∨ checkUrl dns' url = .error .internal := by
  rw [checkUrl_eq, bind_eq_ok] at hok
  obtain ⟨host, hhost, _⟩ := hok
  have hcheck : checkUrl dns' url =
      if dns'.isInternal host then .error .internal else .ok () := by
    rw [checkUrl_eq, hhost]
    rfl
  rw [hcheck]
  cases dns'.isInternal host with
  | false => exact .inl rfl
  | true => exact .inr rfl

end guard

/-- A host is internal if one of the addresses it resolves to is private, loopback, link-local or
reserved. Which addresses there are decides, not their order or number, and with more of them a URL
that passes may be rejected but none that is rejected passes. -/
theorem isInternal_exposed :
    (∀ (dns : Resolver) host, dns.isInternal host = true ↔
      ∃ entry ∈ dns.addresses host, ∃ a, Names entry a ∧
        (a.IsPrivate ∨ a.IsLoopback ∨ a.IsLinkLocal ∨ a.IsReserved)) ∧
    (∀ (dns dns' : Resolver) host,
      (∀ entry, entry ∈ dns.addresses host ↔ entry ∈ dns'.addresses host) →
        dns.isInternal host = dns'.isInternal host) ∧
    ∀ (dns dns' : Resolver) url, (∀ host, dns.addresses host ⊆ dns'.addresses host) →
      (∀ e, checkUrl dns url = .error e → checkUrl dns' url = .error e) ∧
      (checkUrl dns url = .ok () →
        checkUrl dns' url = .ok () ∨ checkUrl dns' url = .error .internal) := by
  refine ⟨fun dns host => isInternal_iff_exists, fun dns dns' host h => ?_, fun dns dns' url h =>
    ⟨fun e => checkUrl_error_mono h, checkUrl_ok_mono⟩⟩
  exact Bool.eq_iff_iff.mpr ⟨isInternal_mono fun entry => (h entry).mp,
    isInternal_mono fun entry => (h entry).mpr⟩

def oneHost (addresses : List Text) : Resolver := [(['a'], addresses)]

theorem addresses_oneHost_subset {l l' : List Text} (h : l ⊆ l') (host : Text) :
    (oneHost l).addresses host ⊆ (oneHost l').addresses host := by
  simp only [Resolver.addresses, oneHost, Dict.get?]
  split
  · exact h
  · exact fun _ hentry => hentry

/-- A public address and a text that is none. -/
def publicEntries : List Text := ["192.0.0.9".toList, "b".toList]

/-- The same, and a mapped address with a zone behind it. -/
def mixedEntries : List Text :=
  ["b".toList, "192.0.0.9".toList, "::ffff:9.9.9.9%1%".toList, "192.0.0.9".toList]

theorem isInternal_exposed_behind_public :
    (∀ host, (oneHost publicEntries).addresses host ⊆ (oneHost mixedEntries).addresses host) ∧
      checkUrl (oneHost publicEntries) "http://a/".toList = .ok () ∧
      (checkUrl (oneHost mixedEntries) "http://a/".toList = .ok () ∨
        checkUrl (oneHost mixedEntries) "http://a/".toList = .error .internal) ∧
      (oneHost mixedEntries).isInternal ['a'] = true ∧
      (∀ entry, entry ∈ (oneHost mixedEntries).addresses ['a'] ↔
        entry ∈ (oneHost mixedEntries.reverse).addresses ['a']) ∧
      (oneHost mixedEntries.reverse).isInternal ['a'] = true ∧
      checkUrl (oneHost mixedEntries) "http://a/".toList = .error .internal ∧
      checkUrl (oneHost mixedEntries.reverse) "http://a/".toList = .error .internal := by
  have hmore : publicEntries ⊆ mixedEntries := by decide
  have hpasses : checkUrl (oneHost publicEntries) "http://a/".toList = .ok () := rfl
  have hrejected : checkUrl (oneHost mixedEntries) "http://a/".toList = .error .internal := rfl
  have hsame : ∀ entry, entry ∈ (oneHost mixedEntries).addresses ['a'] ↔
      entry ∈ (oneHost mixedEntries.reverse).addresses ['a'] := fun _ => List.mem_reverse.symm
  have hmapped : Names "::ffff:9.9.9.9%1%".toList (.v6 0xffff09090909) :=
    names_iff.mpr (by decide)
  obtain ⟨hexists, horder, hguard⟩ := isInternal_exposed
  have hinternal : (oneHost mixedEntries).isInternal ['a'] = true :=
    (hexists _ _).mpr
      ⟨_, by decide, _, hmapped, .inr (.inr (.inr ⟨net6 [] 8, by decide, by decide⟩))⟩
  have hreversed := (hguard (oneHost mixedEntries) (oneHost mixedEntries.reverse) "http://a/".toList
    (addresses_oneHost_subset fun _ => List.mem_reverse.mpr)).1 _ hrejected
  exact ⟨addresses_oneHost_subset hmore, hpasses,
    (hguard _ _ _ (addresses_oneHost_subset hmore)).2 hpasses, hinternal, hsame,
    horder _ _ _ hsame ▸ hinternal, hrejected, hreversed⟩

end PageClip
