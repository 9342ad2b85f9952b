/-!
# Accounts

The users and the groups of the system. All programs run as the first user; the others own nothing unless it
is given to them.
-/

namespace CommandSpec

/-- A user of the system. -/
structure Account where
  name : String
  user : Nat
  group : Nat
  comment : String
  home : String
  shell : String := "/usr/sbin/nologin"
  deriving DecidableEq, Repr, Inhabited

namespace Account

/-- The users. -/
def all : List Account :=
  [ ⟨"root", 0, 0, "root", "/root", "/bin/bash"⟩,
    { name := "daemon", user := 1, group := 1, comment := "daemon", home := "/usr/sbin" },
    { name := "bin", user := 2, group := 2, comment := "bin", home := "/bin" },
    { name := "sys", user := 3, group := 3, comment := "sys", home := "/dev" },
    ⟨"sync", 4, 65534, "sync", "/bin", "/bin/sync"⟩,
    { name := "games", user := 5, group := 60, comment := "games", home := "/usr/games" },
    { name := "man", user := 6, group := 12, comment := "man", home := "/var/cache/man" },
    { name := "lp", user := 7, group := 7, comment := "lp", home := "/var/spool/lpd" },
    { name := "mail", user := 8, group := 8, comment := "mail", home := "/var/mail" },
    { name := "news", user := 9, group := 9, comment := "news", home := "/var/spool/news" },
    { name := "uucp", user := 10, group := 10, comment := "uucp", home := "/var/spool/uucp" },
    { name := "proxy", user := 13, group := 13, comment := "proxy", home := "/bin" },
    { name := "www-data", user := 33, group := 33, comment := "www-data", home := "/var/www" },
    { name := "backup", user := 34, group := 34, comment := "backup", home := "/var/backups" },
    { name := "list", user := 38, group := 38, comment := "Mailing List Manager", home := "/var/list" },
    { name := "irc", user := 39, group := 39, comment := "ircd", home := "/run/ircd" },
    { name := "_apt", user := 42, group := 65534, comment := "", home := "/nonexistent" },
    { name := "nobody", user := 65534, group := 65534, comment := "nobody", home := "/nonexistent" } ]

/-- The groups with their numbers. -/
def groups : List (String × Nat) :=
  [ ("root", 0), ("daemon", 1), ("bin", 2), ("sys", 3), ("adm", 4), ("tty", 5), ("disk", 6), ("lp", 7),
    ("mail", 8), ("news", 9), ("uucp", 10), ("man", 12), ("proxy", 13), ("kmem", 15), ("dialout", 20),
    ("fax", 21), ("voice", 22), ("cdrom", 24), ("floppy", 25), ("tape", 26), ("sudo", 27), ("audio", 29),
    ("dip", 30), ("www-data", 33), ("backup", 34), ("operator", 37), ("list", 38), ("irc", 39), ("src", 40),
    ("shadow", 42), ("utmp", 43), ("video", 44), ("sasl", 45), ("plugdev", 46), ("staff", 50), ("games", 60),
    ("users", 100), ("nogroup", 65534) ]

/-- The user with a name. -/
def ofName? (name : String) : Option Account :=
  all.find? (·.name = name)

/-- The user with a number. -/
def ofNumber? (user : Nat) : Option Account :=
  all.find? (·.user = user)

/-- The name of a user, or else the number. -/
def userName (user : Nat) : String :=
  ((ofNumber? user).map Account.name).getD (toString user)

/-- The name of a group, or else the number. -/
def groupName (group : Nat) : String :=
  ((groups.find? (·.2 = group)).map Prod.fst).getD (toString group)

/-- The text that tells of all users. -/
def userFile : String :=
  String.join (all.map fun a => ":".intercalate
    [a.name, "x", toString a.user, toString a.group, a.comment, a.home, a.shell] ++ "\n")

/-- The text that tells of all groups. -/
def groupFile : String :=
  String.join (groups.map fun (name, number) => name ++ ":x:" ++ toString number ++ ":\n")

end Account

end CommandSpec
