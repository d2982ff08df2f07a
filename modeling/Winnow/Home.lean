import Winnow.Path

/-!
Home directories, which a path can begin with: a tilde stands for the user's own, a tilde with a name for
that of another user.
-/
set_option autoImplicit false

namespace Winnow

structure Homes where
  own : Path
  others : List (String × Path)

inductive HomeError
  | unknownUser
  | zeroByte
  deriving DecidableEq, Repr

def HomeError.message : HomeError → String
  | .unknownUser => "Could not determine home directory."
  | .zeroByte => "embedded null byte"

def Homes.of (h : Homes) (user : String) : Except HomeError Path :=
  if user.isEmpty then .ok h.own
  else if user.toList.contains '\x00' then .error .zeroByte
  else match h.others.lookup user with
    | some home => .ok home
    | none => .error .unknownUser

def Homes.expand (h : Homes) (p : Path) : Except HomeError Path :=
  match p.slashes, p.parts with
  | 0, first :: rest =>
    match first.toList with
    | '~' :: user => do
      let home ← h.of (String.ofList user)
      return { home with parts := home.parts ++ rest }
    | _ => .ok p
  | _, _ => .ok p

end Winnow
