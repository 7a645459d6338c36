import Toolbench.Proofs.Url.Separator

/-!
# The authority of an address

What stands behind the character that ends the authority of a web address has no part in
reading its scheme, credentials, host and port.
-/

namespace Toolbench

namespace Url

section Ending

variable {authority : List Char} (hauthority : ∀ c ∈ authority, endsAuthority true c = false)
  {e : Char} (he : endsAuthority true e = true) (rest : List Char)

include hauthority he

theorem takeWhile_authority :
    (authority ++ e :: rest).takeWhile (fun c => !endsAuthority true c) = authority := by
  rw [List.takeWhile_append_of_pos (by simpa using hauthority)]
  simp [he]

theorem dropWhile_authority :
    (authority ++ e :: rest).dropWhile (fun c => !endsAuthority true c) = e :: rest := by
  rw [List.dropWhile_append_of_pos (by simpa using hauthority)]
  simp [he]

end Ending

theorem not_isDigit_of_endsAuthority {c : Char} (hc : endsAuthority true c = true) :
    c.isDigit = false := by
  rcases (endsAuthority_iff c).mp hc with rfl | rfl | rfl | rfl <;> rfl

/-- The port of an address is read without what stands behind the authority. -/
theorem port?_append {e : Char} (he : endsAuthority true e = true) {digits : List Char}
    (hdigits : ∀ c ∈ digits, endsAuthority true c = false) (value : Option Nat) :
    ∃ found : Except Fault (Option Nat), ∀ rest,
      port? value (digits ++ e :: rest) = found.map fun port => (port, e :: rest) := by
  induction digits generalizing value with
  | nil =>
      refine ⟨.ok value, fun rest => ?_⟩
      have hends : (e = '/' ∨ e = '\\') ∨ e = '?' ∨ e = '#' := by
        simpa [or_assoc] using (endsAuthority_iff e).mp he
      unfold port?
      simp only [List.nil_append, not_isDigit_of_endsAuthority he, Bool.false_eq_true, if_false]
      simp only [or_assoc] at hends
      simp [hends, or_assoc, Except.map]
  | cons c digits ih =>
      have hrest : ∀ c ∈ digits, endsAuthority true c = false := fun c hc =>
        hdigits c (List.mem_cons_of_mem _ hc)
      cases hdigit : c.isDigit with
      | false =>
          refine ⟨.error .badPort, fun rest => ?_⟩
          have hends : ¬ (c = '/' ∨ c = '\\' ∨ c = '?' ∨ c = '#') := by
            rw [← endsAuthority_iff, hdigits c List.mem_cons_self]
            exact Bool.false_ne_true
          simp only [not_or] at hends
          simp [port?, hdigit, hends, Except.map]
      | true =>
          by_cases hsmall : value.getD 0 * 10 + (c.toNat - 0x30) < 0x10000
          · obtain ⟨found, hfound⟩ := ih hrest (some (value.getD 0 * 10 + (c.toNat - 0x30)))
            refine ⟨found, fun rest => ?_⟩
            rw [← hfound rest, List.cons_append, port?]
            simp [hdigit, hsmall]
          · refine ⟨.error .badPort, fun rest => ?_⟩
            rw [List.cons_append, port?]
            simp [hdigit, hsmall, Except.map]

theorem hostAndPort?_append {scheme : String} (hspecial : isSpecial scheme = true)
    {authority : List Char} (hauthority : ∀ c ∈ authority, endsAuthority true c = false)
    {e : Char} (he : endsAuthority true e = true) :
    ∃ found : Except Fault (Host × Option Nat), ∀ rest,
      hostAndPort? scheme (authority ++ e :: rest) =
        found.map fun (host, port) => (host, port, e :: rest) := by
  unfold hostAndPort?
  simp only [hspecial, takeWhile_authority hauthority he, dropWhile_authority hauthority he,
    bind, Except.bind, throw, throwThe, MonadExceptOf.throw, Bool.true_and]
  cases hempty : (authority.take (hostLength false authority)).isEmpty with
  | true =>
      exact ⟨.error .emptyHost, fun rest => by simp [Except.map]⟩
  | false =>
      cases hhost : Host.ofText? (authority.take (hostLength false authority)) with
      | error fault =>
          exact ⟨.error fault, fun rest => by simp [Except.map]⟩
      | ok host =>
          cases hport : authority.drop (hostLength false authority) with
          | nil =>
              exact ⟨.ok (host, none), fun rest => by simp [Except.map]⟩
          | cons colon digits =>
              have hdigits : ∀ c ∈ digits, endsAuthority true c = false := by
                intro c hc
                refine hauthority c (List.mem_of_mem_drop (i := hostLength false authority) ?_)
                rw [hport]
                exact List.mem_cons_of_mem _ hc
              obtain ⟨found, hfound⟩ := port?_append he hdigits none
              refine ⟨found.map fun port =>
                (host, port.filter fun n => usualPorts.lookup scheme != some n), fun rest => ?_⟩
              simp only [hfound rest]
              cases found <;> simp [Except.map]

theorem mem_of_splitCredentials {authority info host : List Char}
    (hsplit : splitCredentials authority = some (info, host)) {c : Char} (hc : c ∈ host) :
    c ∈ authority := by
  unfold splitCredentials at hsplit
  split at hsplit
  · obtain ⟨-, rfl⟩ := Prod.mk.inj (Option.some.inj hsplit)
    exact List.mem_reverse.mp ((List.takeWhile_sublist _).mem (List.mem_reverse.mp hc))
  · cases hsplit

/-- A web address from its credentials and the text behind them. -/
def withCredentials? (scheme : String) (info text : List Char) : Except Fault Url := do
  let (host, port, rest) ← hostAndPort? scheme text
  let (username, password) := credentials info
  if host = .domain "" && !(username.isEmpty && password.isEmpty) then throw .emptyHost
  let url : Url := { scheme, username, password, host := some host, port, path := .segments [] }
  .ok (url.withRest true rest webPath)

theorem withCredentials?_append {scheme : String} (hspecial : isSpecial scheme = true)
    (info : List Char) {authority : List Char}
    (hauthority : ∀ c ∈ authority, endsAuthority true c = false)
    {e : Char} (he : endsAuthority true e = true) :
    ∃ base : Except Fault Url, ∀ rest,
      withCredentials? scheme info (authority ++ e :: rest) =
        base.map fun url => url.withRest true (e :: rest) webPath := by
  obtain ⟨found, hfound⟩ := hostAndPort?_append hspecial hauthority he
  unfold withCredentials?
  simp only [hfound, bind, Except.bind, throw, throwThe, MonadExceptOf.throw]
  cases found with
  | error fault =>
      exact ⟨.error fault, fun rest => rfl⟩
  | ok found =>
      obtain ⟨host, port⟩ := found
      cases hbare : decide (host = .domain "") &&
          !((credentials info).1.isEmpty && (credentials info).2.isEmpty) with
      | true => exact ⟨.error .emptyHost, fun rest => by simp only [Except.map, hbare]; rfl⟩
      | false => exact ⟨.ok _, fun rest => by simp only [Except.map, hbare]; rfl⟩

theorem withAuthority?_eq {scheme : String} (hspecial : isSpecial scheme = true)
    {authority : List Char} (hauthority : ∀ c ∈ authority, endsAuthority true c = false)
    {e : Char} (he : endsAuthority true e = true) (rest : List Char) :
    withAuthority? scheme (authority ++ e :: rest) =
      match splitCredentials authority with
      | none => withCredentials? scheme [] (authority ++ e :: rest)
      | some ([], host) =>
          if host.isEmpty then .error .emptyHost
          else withCredentials? scheme [] (host ++ e :: rest)
      | some (info, host) => withCredentials? scheme info (host ++ e :: rest) := by
  unfold withAuthority? withCredentials?
  simp only [hspecial, takeWhile_authority hauthority he, dropWhile_authority hauthority he,
    bind, Except.bind, throw, throwThe, MonadExceptOf.throw, if_true]
  cases hsplit : splitCredentials authority with
  | none => rfl
  | some parts =>
      obtain ⟨info, host⟩ := parts
      cases info with
      | nil => cases host <;> rfl
      | cons c info => rfl

/-- A web address from behind the two slashes in front of its authority: the authority gives
all but the path, the query and the fragment. -/
theorem withAuthority?_append {scheme : String} (hspecial : isSpecial scheme = true)
    {authority : List Char} (hauthority : ∀ c ∈ authority, endsAuthority true c = false)
    {e : Char} (he : endsAuthority true e = true) :
    ∃ base : Except Fault Url, ∀ rest,
      withAuthority? scheme (authority ++ e :: rest) =
        base.map fun url => url.withRest true (e :: rest) webPath := by
  simp only [withAuthority?_eq hspecial hauthority he]
  cases hsplit : splitCredentials authority with
  | none =>
      exact withCredentials?_append hspecial [] hauthority he
  | some parts =>
      obtain ⟨info, host⟩ := parts
      have hhost : ∀ c ∈ host, endsAuthority true c = false := fun c hc =>
        hauthority c (mem_of_splitCredentials hsplit hc)
      cases info with
      | nil =>
          cases host with
          | nil => exact ⟨.error .emptyHost, fun rest => rfl⟩
          | cons c host => exact withCredentials?_append hspecial [] hhost he
      | cons c info => exact withCredentials?_append hspecial (c :: info) hhost he

end Url

end Toolbench
