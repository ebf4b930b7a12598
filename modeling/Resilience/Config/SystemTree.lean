import Resilience.Config.FileTree
import Resilience.Text.Pieces

/-!
# The files of a system

The directories that a system is usually laid out in, with the best known of the files and links in
them. `FileTree.system` is where paths are looked up that nothing else is known of.
-/

namespace Resilience.FileTree

/-- Names in a row, with spaces between them. -/
def namesOf (row : String) : List String :=
  ((Text.pieces ' ' row.toList).filter (!·.isEmpty)).map String.ofList

/-- A path from the root as its names. -/
def placeOf (path : String) : List String :=
  ((Text.pieces '/' path.toList).filter (!·.isEmpty)).map String.ofList

/-- Directories, by the directory that they stand in. -/
def systemDirectories : List (String × String) :=
  [("/", "boot dev etc home media mnt opt proc root run srv sys tmp usr var"),
    ("/dev", "mqueue net pts shm"),
    ("/etc", "alternatives apt ca-certificates cron.d cron.daily default dpkg init.d kernel"),
    ("/etc", "ld.so.conf.d logrotate.d opt pam.d profile.d rc0.d rc1.d rc2.d rc3.d rc4.d rc5.d"),
    ("/etc", "rc6.d rcS.d security selinux skel ssl systemd terminfo update-motd.d"),
    ("/etc/apt", "apt.conf.d auth.conf.d keyrings preferences.d sources.list.d trusted.gpg.d"),
    ("/etc/ssl", "certs private"),
    ("/proc", "1 acpi bus driver fs irq pressure sys sysvipc tty"),
    ("/proc/bus", "pci"),
    ("/proc/sys", "abi dev fs kernel net user vm"),
    ("/proc/sys/fs", "binfmt_misc epoll inotify mqueue"),
    ("/proc/sys/kernel", "keys pty random seccomp usermodehelper"),
    ("/proc/sys/net", "core ipv4 ipv6 unix"),
    ("/proc/sys/net/ipv4", "conf neigh route"),
    ("/proc/sys/net/ipv6", "conf icmp neigh route"),
    ("/proc/tty", "driver ldisc"),
    ("/run", "lock systemd"),
    ("/sys", "block bus class dev devices firmware fs kernel module power"),
    ("/sys/class", "block mem misc net tty"),
    ("/sys/fs", "bpf cgroup"),
    ("/sys/kernel", "cgroup debug mm security slab tracing"),
    ("/usr", "bin games include lib lib64 libexec local sbin share src"),
    ("/usr/lib", "apt dpkg gcc init locale mime python3 ssl systemd tmpfiles.d udev"),
    ("/usr/lib", "x86_64-linux-gnu"),
    ("/usr/local", "bin etc games include lib sbin share src"),
    ("/usr/local/share", "ca-certificates man"),
    ("/usr/share", "base-files base-passwd bash-completion bug common-licenses debconf"),
    ("/usr/share", "debianutils dict doc doc-base dpkg info keyrings libc-bin locale man menu"),
    ("/usr/share", "misc pam pam-configs perl5 pixmaps sensible-utils tabset terminfo zoneinfo"),
    ("/var", "backups cache lib local log mail opt spool tmp"),
    ("/var/cache", "adduser apt debconf ldconfig"),
    ("/var/lib", "apt dpkg misc pam systemd"),
    ("/var/lib/apt", "lists mirrors periodic"),
    ("/var/lib/dpkg", "alternatives info parts triggers updates"),
    ("/var/log", "apt"),
    ("/var/spool", "cron")]

/-- Files, by the directory that they stand in. -/
def systemFiles : List (String × String) :=
  [("/dev", "console full null ptmx random urandom zero"),
    ("/etc", "adduser.conf bash.bashrc ca-certificates.conf debconf.conf debian_version"),
    ("/etc", "deluser.conf environment fstab gai.conf group group- gshadow gshadow- host.conf"),
    ("/etc", "hostname hosts issue issue.net ld.so.cache ld.so.conf libaudit.conf localtime"),
    ("/etc", "login.defs machine-id mke2fs.conf motd networks nsswitch.conf pam.conf passwd"),
    ("/etc", "passwd- profile protocols resolv.conf rmt rpc services shadow shadow- shells subgid"),
    ("/etc", "subgid- subuid subuid- sysctl.conf timezone xattr.conf"),
    ("/etc/ssl", "openssl.cnf"),
    ("/proc", "buddyinfo cgroups cmdline config.gz consoles cpuinfo crypto devices diskstats dma"),
    ("/proc", "execdomains filesystems interrupts iomem ioports kallsyms kcore key-users keys"),
    ("/proc", "kmsg kpagecgroup kpagecount kpageflags loadavg locks meminfo misc modules mtrr"),
    ("/proc", "pagetypeinfo partitions sched_debug schedstat slabinfo softirqs stat swaps"),
    ("/proc", "sysrq-trigger timer_list uptime version vmallocinfo vmstat zoneinfo"),
    ("/proc/irq", "default_smp_affinity"),
    ("/proc/pressure", "cpu io memory"),
    ("/proc/sys/fs", "aio-max-nr aio-nr dentry-state file-max file-nr inode-nr inode-state"),
    ("/proc/sys/fs", "lease-break-time leases-enable mount-max nr_open overflowgid overflowuid"),
    ("/proc/sys/fs", "pipe-max-size pipe-user-pages-hard pipe-user-pages-soft protected_hardlinks"),
    ("/proc/sys/fs", "protected_symlinks suid_dumpable"),
    ("/proc/sys/kernel", "acct auto_msgmni bootloader_type bootloader_version cad_pid"),
    ("/proc/sys/kernel", "cap_last_cap core_pattern core_pipe_limit core_uses_pid ctrl-alt-del"),
    ("/proc/sys/kernel", "dmesg_restrict domainname hostname hung_task_panic"),
    ("/proc/sys/kernel", "hung_task_timeout_secs io_delay_type kptr_restrict max_lock_depth"),
    ("/proc/sys/kernel", "msgmax msgmnb msgmni ngroups_max nmi_watchdog ns_last_pid"),
    ("/proc/sys/kernel", "numa_balancing osrelease ostype overflowgid overflowuid panic"),
    ("/proc/sys/kernel", "panic_on_oops panic_on_warn perf_event_max_sample_rate"),
    ("/proc/sys/kernel", "perf_event_max_stack perf_event_mlock_kb perf_event_paranoid pid_max"),
    ("/proc/sys/kernel", "poweroff_cmd print-fatal-signals printk printk_delay printk_devkmsg"),
    ("/proc/sys/kernel", "printk_ratelimit printk_ratelimit_burst randomize_va_space"),
    ("/proc/sys/kernel", "real-root-dev sched_autogroup_enabled sched_rr_timeslice_ms"),
    ("/proc/sys/kernel", "sched_rt_period_us sched_rt_runtime_us sem shm_rmid_forced shmall"),
    ("/proc/sys/kernel", "shmmax shmmni soft_watchdog softlockup_panic sysctl_writes_strict"),
    ("/proc/sys/kernel", "tainted threads-max timer_migration unprivileged_bpf_disabled version"),
    ("/proc/sys/kernel", "watchdog watchdog_cpumask watchdog_thresh"),
    ("/proc/sys/kernel/random", "boot_id entropy_avail poolsize urandom_min_reseed_secs uuid"),
    ("/proc/sys/kernel/random", "write_wakeup_threshold"),
    ("/proc/sys/net/core", "netdev_max_backlog optmem_max rmem_default rmem_max somaxconn"),
    ("/proc/sys/net/core", "wmem_default wmem_max"),
    ("/proc/sys/net/ipv4", "icmp_echo_ignore_all icmp_ratelimit ip_default_ttl ip_forward"),
    ("/proc/sys/net/ipv4", "ip_local_port_range ip_local_reserved_ports ip_nonlocal_bind"),
    ("/proc/sys/net/ipv4", "ping_group_range tcp_congestion_control tcp_fin_timeout"),
    ("/proc/sys/net/ipv4", "tcp_keepalive_intvl tcp_keepalive_probes tcp_keepalive_time"),
    ("/proc/sys/net/ipv4", "tcp_max_syn_backlog tcp_mem tcp_rmem tcp_sack tcp_syn_retries"),
    ("/proc/sys/net/ipv4", "tcp_syncookies tcp_timestamps tcp_tw_reuse tcp_window_scaling"),
    ("/proc/sys/net/ipv4", "tcp_wmem udp_mem"),
    ("/proc/sys/user", "max_cgroup_namespaces max_inotify_instances max_inotify_watches"),
    ("/proc/sys/user", "max_ipc_namespaces max_mnt_namespaces max_net_namespaces"),
    ("/proc/sys/user", "max_pid_namespaces max_user_namespaces max_uts_namespaces"),
    ("/proc/sys/vm", "admin_reserve_kbytes compact_memory dirty_background_bytes"),
    ("/proc/sys/vm", "dirty_background_ratio dirty_bytes dirty_expire_centisecs dirty_ratio"),
    ("/proc/sys/vm", "dirty_writeback_centisecs drop_caches extfrag_threshold laptop_mode"),
    ("/proc/sys/vm", "lowmem_reserve_ratio max_map_count min_free_kbytes mmap_min_addr"),
    ("/proc/sys/vm", "nr_hugepages oom_dump_tasks oom_kill_allocating_task overcommit_kbytes"),
    ("/proc/sys/vm", "overcommit_memory overcommit_ratio page-cluster panic_on_oom stat_interval"),
    ("/proc/sys/vm", "swappiness user_reserve_kbytes vfs_cache_pressure watermark_scale_factor"),
    ("/proc/sys/vm", "zone_reclaim_mode"),
    ("/proc/sysvipc", "msg sem shm"),
    ("/proc/tty", "drivers ldiscs"),
    ("/root", ".bashrc .profile"),
    ("/sys/kernel", "fscaps notes profiling rcu_expedited rcu_normal uevent_seqnum vmcoreinfo"),
    ("/usr/bin", "[ addpart apt apt-cache apt-cdrom apt-config apt-get apt-key apt-mark ar arch"),
    ("/usr/bin", "as awk b2sum base32 base64 basename basenc bash captoinfo cat cc chage chcon"),
    ("/usr/bin", "chfn chgrp chmod choom chown chrt chsh cksum clear clear_console cmp comm cp"),
    ("/usr/bin", "csplit cut dash date dd deb-systemd-helper deb-systemd-invoke debconf"),
    ("/usr/bin", "debconf-apt-progress debconf-communicate debconf-copydb debconf-escape"),
    ("/usr/bin", "debconf-set-selections debconf-show delpart df diff diff3 dir dircolors dirname"),
    ("/usr/bin", "dmesg dnsdomainname domainname dpkg dpkg-deb dpkg-divert"),
    ("/usr/bin", "dpkg-maintscript-helper dpkg-query dpkg-split dpkg-statoverride dpkg-trigger du"),
    ("/usr/bin", "echo egrep env expand expiry expr factor faillog fallocate false fgrep find"),
    ("/usr/bin", "findmnt flock fmt fold gcc getconf getent getopt gpasswd grep groups gunzip"),
    ("/usr/bin", "gzexe gzip hardlink head hostid hostname i386 iconv id infocmp infotocap"),
    ("/usr/bin", "install ionice ip ipcmk ipcrm ipcs ischroot join kill last lastb lastlog ld ldd"),
    ("/usr/bin", "less link linux32 linux64 ln locale locale-check localedef logger login logname"),
    ("/usr/bin", "ls lsblk lscpu lsipc lslocks lslogins lsmem lsns mawk mcookie md5sum mesg mkdir"),
    ("/usr/bin", "mkfifo mknod mktemp more mount mountpoint mv namei nawk newgrp nice"),
    ("/usr/bin", "nisdomainname nl nohup nproc nsenter numfmt od partx passwd paste pathchk perl"),
    ("/usr/bin", "pidof ping pinky pldd pr printenv printf prlimit ps ptx pwd rbash readlink"),
    ("/usr/bin", "realpath rename.ul renice reset resizepart rev rgrep rm rmdir run-parts runcon"),
    ("/usr/bin", "savelog script scriptlive scriptreplay sdiff sed select-editor sensible-browser"),
    ("/usr/bin", "sensible-editor sensible-pager seq setarch setpriv setsid setterm sg sh sha1sum"),
    ("/usr/bin", "sha224sum sha256sum sha384sum sha512sum shred shuf sleep sort split stat stdbuf"),
    ("/usr/bin", "stty su sum sync tabs tac tail tar taskset tee tempfile test tic timeout toe"),
    ("/usr/bin", "touch tput tr true truncate tset tsort tty tzselect uclampset umount uname"),
    ("/usr/bin", "uncompress unexpand uniq unlink unshare update-alternatives uptime users"),
    ("/usr/bin", "utmpdump vdir wall wc wdctl whereis which who whoami x86_64 xargs yes"),
    ("/usr/bin", "ypdomainname zcat zcmp zdiff zdump zegrep zfgrep zforce zgrep zless zmore znew"),
    ("/usr/lib", "os-release"),
    ("/usr/lib/x86_64-linux-gnu", "ld-linux-x86-64.so.2 libc.so.6 libdl.so.2 libgcc_s.so.1"),
    ("/usr/lib/x86_64-linux-gnu", "libm.so.6 libpthread.so.0 libresolv.so.2 librt.so.1 libz.so.1"),
    ("/usr/lib64", "ld-linux-x86-64.so.2"),
    ("/usr/sbin", "add-shell agetty blkdiscard blkid blkzone blockdev chcpu chgpasswd chmem"),
    ("/usr/sbin", "chpasswd chroot cpgr cppw ctrlaltdel dpkg-preconfigure dpkg-reconfigure findfs"),
    ("/usr/sbin", "fsck fsck.cramfs fsck.minix fsfreeze fstab-decode fstrim getty groupadd"),
    ("/usr/sbin", "groupdel groupmems groupmod grpck grpconv grpunconv iconvconfig invoke-rc.d"),
    ("/usr/sbin", "isosize killall5 ldattach ldconfig losetup mkfs mkfs.bfs mkfs.cramfs"),
    ("/usr/sbin", "mkfs.minix mkswap newusers nologin pivot_root pwck pwconv pwunconv readprofile"),
    ("/usr/sbin", "rmt-tar rtcwake runuser service shadowconfig start-stop-daemon sulogin"),
    ("/usr/sbin", "swaplabel swapoff swapon switch_root tarcat update-passwd update-rc.d"),
    ("/usr/sbin", "update-shells useradd userdel usermod vigr vipw wipefs zic zramctl"),
    ("/var/lib/dpkg", "available diversions lock lock-frontend status"),
    ("/var/log", "alternatives.log bootstrap.log btmp dpkg.log faillog lastlog wtmp")]

/-- Files of devices that are not there. -/
def absentDevices : List (String × String) := [("/dev", "tty")]

/-- Links, and where they lead to. -/
def systemLinks : List (String × String) :=
  [("/bin", "/usr/bin"), ("/sbin", "/usr/sbin"), ("/lib", "/usr/lib"), ("/lib64", "/usr/lib64"),
    ("/dev/core", "/proc/kcore"), ("/dev/fd", "/proc/self/fd"),
    ("/dev/stderr", "/proc/self/fd/2"), ("/dev/stdin", "/proc/self/fd/0"),
    ("/dev/stdout", "/proc/self/fd/1"),
    ("/etc/mtab", "/proc/mounts"), ("/etc/os-release", "/usr/lib/os-release"),
    ("/proc/mounts", "/proc/self/mounts"), ("/proc/net", "/proc/self/net"),
    ("/usr/bin/rbash", "/usr/bin/bash"), ("/usr/bin/sh", "/usr/bin/dash"),
    ("/usr/local/man", "/usr/local/share/man"), ("/var/lock", "/run/lock"), ("/var/run", "/run"),
    ("/var/spool/mail", "/var/mail")]

/-! ### Processes -/

/-- The files of a process. -/
def processFiles : List String :=
  ["arch_status autogroup auxv cgroup clear_refs cmdline comm coredump_filter cpuset environ",
    "gid_map io ksm_merging_pages ksm_stat limits loginuid maps mem mountinfo mounts mountstats",
    "numa_maps oom_adj oom_score oom_score_adj pagemap personality projid_map sched schedstat",
    "sessionid setgroups smaps smaps_rollup stack stat statm status syscall timens_offsets timers",
    "timerslack_ns uid_map wchan"]

/-- The files of a process about its network. -/
def networkFiles : List String :=
  ["anycast6 arp dev dev_mcast fib_trie fib_triestat icmp icmp6 if_inet6 igmp igmp6 ip6_flowlabel",
    "ipv6_route mcfilter mcfilter6 netlink netstat packet protocols psched ptype raw raw6 route",
    "rt6_stats rt_acct rt_cache snmp snmp6 sockstat sockstat6 softnet_stat tcp tcp6 udp udp6",
    "udplite udplite6 unix wireless xfrm_stat"]

/-- The number of the process that looks, as a name. It is not known, so no path spells it. -/
def ownNumber : String := "self/"

/-- The directories of processes: of the first one, of the one that looks, and of its task. -/
def processes : List (List String) :=
  [["proc", "1"], ["proc", ownNumber], ["proc", ownNumber, "task", ownNumber]]

/-- Files that a process has open and that stand in no directory: its input, its output, its
messages, its program, and what separates it from others. -/
def unnamedFiles : List String := ["/input", "/output", "/messages", "/program", "/namespace"]

/-- The directories in those of processes. -/
def processDirectories : List (List String × String) :=
  (["proc"], ownNumber) :: (["proc", ownNumber, "task"], ownNumber) ::
    processes.map (·, "attr fd fdinfo map_files net ns task")

/-- The files in the directories of processes. -/
def filesOfProcesses : List (List String × String) :=
  processes.flatMap fun process ↦
    processFiles.map (process, ·) ++ networkFiles.map (process ++ ["net"], ·) ++
      [(process ++ ["attr"], "current exec fscreate keycreate prev sockcreate"),
        (process ++ ["fdinfo"], "0 1 2")]

/-- The links in the directories of processes. -/
def linksOfProcesses : List (List String × List String) :=
  (["proc", "self"], ["proc", ownNumber]) ::
    (["proc", "thread-self"], ["proc", ownNumber, "task", ownNumber]) ::
    processes.flatMap fun process ↦
      [(process ++ ["root"], []), (process ++ ["cwd"], ["tmp"]),
        (process ++ ["exe"], ["/program"]), (process ++ ["fd", "0"], ["/input"]),
        (process ++ ["fd", "1"], ["/output"]), (process ++ ["fd", "2"], ["/messages"])] ++
      (namesOf "cgroup ipc mnt net pid pid_for_children time time_for_children user uts").map
        fun name ↦ (process ++ ["ns", name], ["/namespace"])

/-! ### The whole tree -/

/-- Whether one of the rows holds a place. -/
def hasPlace (rows : List (List String × String)) (place : List String) : Bool :=
  rows.any fun (directory, row) ↦
    place.dropLast == directory && (namesOf row).any fun name ↦ directory ++ [name] == place

/-- Rows with places for paths. -/
def placed (rows : List (String × String)) : List (List String × String) :=
  rows.map fun (path, row) ↦ (placeOf path, row)

/-- All links. -/
def links : List (List String × List String) :=
  systemLinks.map (fun (path, target) ↦ (placeOf path, placeOf target)) ++ linksOfProcesses

/-- The tree of a system. Its directories of processes, devices and terminals are fixed, and those
of processes and devices do not limit names. -/
def system : FileTree where
  node? place :=
    match links.lookup place with
    | some target => some (.link target)
    | none =>
      if place.isEmpty || hasPlace (placed systemDirectories ++ processDirectories) place then
        some .directory
      else if hasPlace (placed systemFiles ++ filesOfProcesses) place ||
          unnamedFiles.any fun name ↦ place == [name] then some .file
      else if hasPlace (placed absentDevices) place then some .absentDevice
      else none
  limitsNames place := place.head? != some "proc" && place.head? != some "sys"
  fixedBy place :=
    if place.head? = some "proc" then some .notFound
    else if place.head? = some "sys" ∨ place = ["dev", "pts"] then some .noPermission
    else none
  current := ["tmp"]

/-- Whether a place is the output of the process that looks. -/
def isOutput (place : List String) : Bool := place == ["/output"]

end Resilience.FileTree
