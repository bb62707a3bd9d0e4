import DebugControl.Files.Node
import DebugControl.Text.Utf8

/-!
# The files of the system

What a small installation has before anything is written: the usual directories, the devices, the
accounts, and the programs that the machine can run.
-/

namespace DebugControl.SystemFiles

def place (path : String) : Place := Path.names (Utf8.ofString path)

def workingPlace : Place := place "/tmp/session"

def programs : List String := ["cat", "dash", "echo", "false", "printf", "sleep", "true"]

def directories : List String :=
  ["/", "/boot", "/dev", "/dev/mqueue", "/dev/pts", "/dev/shm", "/etc", "/etc/default", "/home",
    "/media", "/mnt", "/opt", "/root", "/run", "/run/lock", "/srv", "/tmp", "/usr", "/usr/bin",
    "/usr/games", "/usr/include", "/usr/lib", "/usr/lib64", "/usr/libexec", "/usr/local",
    "/usr/local/bin", "/usr/local/etc", "/usr/local/games", "/usr/local/include",
    "/usr/local/lib", "/usr/local/sbin", "/usr/local/share", "/usr/local/src", "/usr/sbin",
    "/usr/share", "/usr/src", "/var", "/var/backups", "/var/cache", "/var/lib", "/var/local",
    "/var/log", "/var/mail", "/var/opt", "/var/spool", "/var/tmp"]

/-- The directories in which nothing can be made. -/
def sealedDirectories : List String :=
  ["/proc", "/proc/self", "/proc/self/fd", "/sys"]

def links : List (String × String) :=
  [("/bin", "usr/bin"), ("/lib", "usr/lib"), ("/lib64", "usr/lib64"), ("/sbin", "usr/sbin"),
    ("/usr/bin/sh", "dash"), ("/usr/local/man", "share/man"), ("/var/lock", "/run/lock"),
    ("/var/run", "/run"), ("/dev/fd", "/proc/self/fd"), ("/dev/stdin", "/proc/self/fd/0"),
    ("/dev/stdout", "/proc/self/fd/1"), ("/dev/stderr", "/proc/self/fd/2")]

def devices : List (String × Device) :=
  [("/dev/null", .null), ("/dev/zero", .zero), ("/dev/full", .full), ("/dev/tty", .terminal)]

def accounts : String :=
  "root:x:0:0:root:/root:/bin/bash
daemon:x:1:1:daemon:/usr/sbin:/usr/sbin/nologin
bin:x:2:2:bin:/bin:/usr/sbin/nologin
sys:x:3:3:sys:/dev:/usr/sbin/nologin
sync:x:4:65534:sync:/bin:/bin/sync
games:x:5:60:games:/usr/games:/usr/sbin/nologin
man:x:6:12:man:/var/cache/man:/usr/sbin/nologin
lp:x:7:7:lp:/var/spool/lpd:/usr/sbin/nologin
mail:x:8:8:mail:/var/mail:/usr/sbin/nologin
news:x:9:9:news:/var/spool/news:/usr/sbin/nologin
uucp:x:10:10:uucp:/var/spool/uucp:/usr/sbin/nologin
proxy:x:13:13:proxy:/bin:/usr/sbin/nologin
www-data:x:33:33:www-data:/var/www:/usr/sbin/nologin
backup:x:34:34:backup:/var/backups:/usr/sbin/nologin
list:x:38:38:Mailing List Manager:/var/list:/usr/sbin/nologin
irc:x:39:39:ircd:/run/ircd:/usr/sbin/nologin
_apt:x:42:65534::/nonexistent:/usr/sbin/nologin
nobody:x:65534:65534:nobody:/nonexistent:/usr/sbin/nologin
"

def texts : List (String × String) :=
  [("/etc/passwd", accounts), ("/etc/hostname", "localhost\n"),
    ("/etc/hosts", "127.0.0.1\tlocalhost\n"),
    ("/etc/shells", "/bin/sh\n/usr/bin/sh\n/bin/dash\n/usr/bin/dash\n")]

def descriptors : List Nat := [0, 1, 2, 3, 4, 5, 6, 7, 8, 9]

def nodes : List (Place × Node) :=
  (workingPlace, .directory false) ::
    directories.map (fun p => (place p, .directory false)) ++
    sealedDirectories.map (fun p => (place p, .directory true)) ++
    links.map (fun l => (place l.1, .link (Utf8.ofString l.2))) ++
    devices.map (fun d => (place d.1, .device d.2)) ++
    texts.map (fun t => (place t.1, .file (Utf8.ofString t.2))) ++
    programs.map (fun name => (place ("/usr/bin/" ++ name), .program name)) ++
    descriptors.map (fun n => (place s!"/proc/self/fd/{n}", .descriptor n))

/-- The octets at which the content of a program begins; they are no text. -/
def programContent : List UInt8 := [0x7F, 0x45, 0x4C, 0x46, 0x02, 0x01, 0x01, 0x00, 0xFF]

def searchPath : String := "/usr/local/sbin:/usr/local/bin:/usr/sbin:/usr/bin:/sbin:/bin"

def home : String := "/root"

def homeOf? (account : List Char) : Option (List Char) :=
  let fields (line : List Char) : List (List Char) :=
    (line.splitBy fun a b => a != ':' && b != ':').filter (· != [':'])
  let lines := (accounts.toList.splitBy fun a _ => a != '\n').map (·.filter (· != '\n'))
  (lines.find? fun line => (fields line).head? = some account).bind fun line =>
    (fields line).reverse[1]?

end DebugControl.SystemFiles
