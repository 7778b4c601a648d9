import Tunables.Catalog

/-!
# The bundled dataset

The help data that is published when no dataset is given.
-/

namespace Tunables

/-- The parameters of the bundled dataset, in the order of their names. -/
def bundledParameters : List Parameter := [
  { Parameter.named "admin_socket" with
      valueType := "str"
      level := "advanced"
      description :=
        "path for the runtime control socket file, used by the 'ceph daemon' command"
      default := .ofText "$run_dir/$cluster-$name.$pid.$cctid.asok"
      daemonDefault := .ofText "$run_dir/$cluster-$name.asok"
      services := ["common"]
      flags := ["startup"] },
  { Parameter.named "bluestore_cache_size" with
      valueType := "size"
      level := "dev"
      description := "Cache size (in bytes) for BlueStore"
      longDescription :=
        "This includes data and metadata cached by BlueStore as well as memory devoted to " ++
          "rocksdb's cache(s)."
      default := .ofInt 0
      daemonDefault := .ofText ""
      services := ["osd"]
      canUpdateAtRuntime := true },
  { Parameter.named "bluestore_compression_mode" with
      valueType := "str"
      level := "advanced"
      description := "Default policy for using compression when pool does not specify"
      longDescription :=
        "'none' means never use compression. 'passive' means use compression when clients " ++
          "hint that data is compressible. 'aggressive' means use compression unless " ++
          "clients hint that data is not compressible."
      default := .ofText "none"
      daemonDefault := .ofText ""
      tags := ["compression"]
      services := ["osd"]
      enumValues := ["none", "passive", "aggressive", "force"]
      canUpdateAtRuntime := true },
  { Parameter.named "cephfs_mirror_max_concurrent_directory_syncs" with
      valueType := "uint"
      level := "advanced"
      description := "maximum number of concurrent snapshot synchronization threads"
      longDescription :=
        "maximum number of directory snapshots that can be synchronized concurrently by " ++
          "cephfs-mirror daemon."
      default := .ofInt 3
      daemonDefault := .ofText ""
      services := ["cephfs-mirror"]
      min := some (.ofDecimal false 1 0)
      canUpdateAtRuntime := true },
  { Parameter.named "client_cache_size" with
      valueType := "size"
      level := "basic"
      description := "soft maximum number of directory entries in client cache"
      default := .ofInt 16384
      daemonDefault := .ofText ""
      tags := ["client"]
      services := ["mds_client"]
      canUpdateAtRuntime := true },
  { Parameter.named "client_mount_timeout" with
      valueType := "secs"
      level := "advanced"
      description := "timeout for mounting CephFS (seconds)"
      default := .ofInt 300
      daemonDefault := .ofText ""
      tags := ["client"]
      services := ["mds_client"]
      canUpdateAtRuntime := true },
  { Parameter.named "debug_ms" with
      valueType := "str"
      level := "advanced"
      description := "Debug level for ms"
      default := .ofText "0/0"
      daemonDefault := .ofText ""
      services := ["common"]
      canUpdateAtRuntime := true },
  { Parameter.named "exporter_sock_dir" with
      valueType := "str"
      level := "advanced"
      description := "The path to ceph daemons socket files dir"
      default := .ofText "/var/run/ceph/"
      daemonDefault := .ofText ""
      services := ["ceph-exporter"] },
  { Parameter.named "exporter_stats_period" with
      valueType := "int"
      level := "advanced"
      description := "Time to wait before sending requests again to exporter server (seconds)"
      default := .ofInt 5
      daemonDefault := .ofText ""
      services := ["ceph-exporter"]
      canUpdateAtRuntime := true },
  { Parameter.named "fsid" with
      valueType := "uuid"
      level := "basic"
      description := "cluster fsid (uuid)"
      default := .ofText "00000000-0000-0000-0000-000000000000"
      daemonDefault := .ofText ""
      tags := ["service"]
      services := ["common"]
      flags := ["no_mon_update", "startup"] },
  { Parameter.named "immutable_object_cache_max_size" with
      valueType := "size"
      level := "advanced"
      description := "max immutable object cache data size"
      default := .ofInt 1073741824
      daemonDefault := .ofText ""
      services := ["immutable-object-cache"]
      canUpdateAtRuntime := true },
  { Parameter.named "immutable_object_cache_path" with
      valueType := "str"
      level := "advanced"
      description := "immutable object cache data dir"
      default := .ofText "/tmp/ceph_immutable_object_cache"
      daemonDefault := .ofText ""
      services := ["immutable-object-cache"]
      canUpdateAtRuntime := true },
  { Parameter.named "log_file" with
      valueType := "str"
      level := "basic"
      description := "path to log file"
      default := .ofText ""
      daemonDefault := .ofText "/var/log/ceph/$cluster-$name.log"
      services := ["common"]
      seeAlso :=
        ["log_to_file", "log_to_stderr", "err_to_stderr", "log_to_syslog",
          "err_to_syslog"]
      canUpdateAtRuntime := true },
  { Parameter.named "mds_beacon_grace" with
      valueType := "float"
      level := "advanced"
      description := "tolerance in seconds for missed MDS beacons to monitors"
      default := .ofInt 15
      daemonDefault := .ofText ""
      services := ["mds", "mon"]
      canUpdateAtRuntime := true },
  { Parameter.named "mds_cache_memory_limit" with
      valueType := "size"
      level := "basic"
      description := "target maximum memory usage of MDS cache"
      longDescription :=
        "This sets a target maximum memory usage of the MDS cache and is the primary " ++
          "tunable to limit the MDS memory usage."
      default := .ofInt 4294967296
      daemonDefault := .ofText ""
      services := ["mds"]
      canUpdateAtRuntime := true
      flags := ["runtime"] },
  { Parameter.named "mgr_stats_period" with
      valueType := "int"
      level := "basic"
      description := "Period in seconds of OSD/MDS stats reports to manager"
      longDescription :=
        "Use this setting to control the granularity of time series data collection from " ++
          "daemons. Adjust upwards if the manager CPU load is too high, or if you simply " ++
          "do not require the most up to date performance counter data."
      default := .ofInt 5
      daemonDefault := .ofText ""
      services := ["mgr", "common"]
      canUpdateAtRuntime := true },
  { Parameter.named "mgr_tick_period" with
      valueType := "secs"
      level := "advanced"
      description := "Period in seconds of beacon messages to monitor"
      default := .ofInt 2
      daemonDefault := .ofText ""
      services := ["mgr", "mon"]
      canUpdateAtRuntime := true },
  { Parameter.named "mon_allow_pool_delete" with
      valueType := "bool"
      level := "advanced"
      description := "allow pool deletions"
      default := .ofText "false"
      daemonDefault := .ofText ""
      services := ["mon"]
      canUpdateAtRuntime := true },
  { Parameter.named "mon_clock_drift_allowed" with
      valueType := "float"
      level := "advanced"
      description :=
        "allowed clock drift (in seconds) between monitors before issuing a health warning"
      default := .ofReal (.ofDecimal false 5 (-2))
      daemonDefault := .ofText ""
      services := ["mon"]
      canUpdateAtRuntime := true },
  { Parameter.named "mon_data" with
      valueType := "str"
      level := "advanced"
      description := "path to mon database"
      default := .ofText "/var/lib/ceph/mon/$cluster-$id"
      daemonDefault := .ofText ""
      services := ["mon"]
      flags := ["no_mon_update"] },
  { Parameter.named "mon_host" with
      valueType := "str"
      level := "basic"
      description := "list of hosts or addresses to search for a monitor"
      longDescription :=
        "This is a list of IP addresses or hostnames that are separated by commas, " ++
          "whitespace, or semicolons."
      default := .ofText ""
      daemonDefault := .ofText ""
      tags := ["network"]
      services := ["common"]
      flags := ["no_mon_update", "startup"] },
  { Parameter.named "mon_max_pg_per_osd" with
      valueType := "uint"
      level := "advanced"
      description := "Max number of PGs per OSD the cluster will allow"
      longDescription :=
        "If the number of PGs per OSD exceeds this, a health warning will be visible in " ++
          "`ceph status`."
      default := .ofInt 250
      daemonDefault := .ofText ""
      services := ["mgr", "mon"]
      min := some (.ofDecimal false 1 0)
      canUpdateAtRuntime := true },
  { Parameter.named "ms_bind_ipv6" with
      valueType := "bool"
      level := "advanced"
      description := "Bind servers to IPv6 address(es)"
      default := .ofText "false"
      daemonDefault := .ofText ""
      tags := ["network"]
      services := ["common"]
      seeAlso := ["ms_bind_ipv4"]
      flags := ["startup"] },
  { Parameter.named "ms_dispatch_throttle_bytes" with
      valueType := "size"
      level := "advanced"
      description := "Limit messages that are read off the network but still being processed"
      default := .ofInt 104857600
      daemonDefault := .ofText ""
      services := ["common"] },
  { Parameter.named "osd_heartbeat_grace" with
      valueType := "int"
      level := "advanced"
      description := "Duration of missing heartbeats after which a peer is considered down"
      default := .ofInt 20
      daemonDefault := .ofText ""
      services := ["osd", "mon"]
      canUpdateAtRuntime := true },
  { Parameter.named "osd_max_backfills" with
      valueType := "uint"
      level := "advanced"
      description :=
        "Maximum number of concurrent local and remote backfills or recoveries per OSD"
      default := .ofInt 1
      daemonDefault := .ofText ""
      services := ["osd"]
      canUpdateAtRuntime := true },
  { Parameter.named "osd_memory_target" with
      valueType := "size"
      level := "basic"
      description :=
        "When tcmalloc and cache autotuning is enabled, try to keep this many bytes " ++
          "mapped in memory."
      longDescription :=
        "The minimum value must be at least equal to osd_memory_base + " ++
          "osd_memory_cache_min."
      default := .ofInt 4294967296
      daemonDefault := .ofText ""
      services := ["osd"]
      seeAlso := ["bluestore_cache_autotune", "osd_memory_cache_min", "osd_memory_base"]
      min := some (.ofDecimal false 939524096 0)
      canUpdateAtRuntime := true },
  { Parameter.named "osd_op_complaint_time" with
      valueType := "float"
      level := "advanced"
      description := "A client operation that takes longer than this is considered slow"
      default := .ofInt 30
      daemonDefault := .ofText ""
      services := ["osd"]
      canUpdateAtRuntime := true },
  { Parameter.named "osd_pool_default_min_size" with
      valueType := "uint"
      level := "advanced"
      description :=
        "the minimal number of copies allowed to write to a degraded pool for new " ++
          "replicated pools"
      longDescription := "0 means no specific default; ceph will use size-size/2"
      default := .ofInt 0
      daemonDefault := .ofText ""
      services := ["mon"]
      seeAlso := ["osd_pool_default_size"]
      min := some (.ofDecimal false 0 0)
      max := some (.ofDecimal false 255 0)
      canUpdateAtRuntime := true },
  { Parameter.named "osd_pool_default_size" with
      valueType := "uint"
      level := "advanced"
      description := "the number of copies of an object for new replicated pools"
      default := .ofInt 3
      daemonDefault := .ofText ""
      services := ["mon"]
      min := some (.ofDecimal false 0 0)
      max := some (.ofDecimal false 1 1)
      canUpdateAtRuntime := true },
  { Parameter.named "osd_recovery_sleep" with
      valueType := "float"
      level := "advanced"
      description := "Time in seconds to sleep before next recovery or backfill op"
      default := .ofInt 0
      daemonDefault := .ofText ""
      services := ["osd"]
      canUpdateAtRuntime := true },
  { Parameter.named "public_addr" with
      valueType := "addr"
      level := "basic"
      description := "public-facing address to bind to"
      default := .ofText "-"
      daemonDefault := .ofText ""
      tags := ["network"]
      services := ["mon", "mds", "osd", "mgr"]
      flags := ["startup"] },
  { Parameter.named "public_addrv" with
      valueType := "addrvec"
      level := "advanced"
      description := "public-facing address vector to bind to"
      default := .ofText ""
      daemonDefault := .ofText ""
      tags := ["network"]
      services := ["mon", "mds", "osd", "mgr"]
      flags := ["startup"] },
  { Parameter.named "public_network" with
      valueType := "str"
      level := "advanced"
      description := "Network(s) from which to choose a public address to bind to"
      default := .ofText ""
      daemonDefault := .ofText ""
      tags := ["network"]
      services := ["mon", "mds", "osd", "mgr"]
      flags := ["startup"] },
  { Parameter.named "rbd_cache" with
      valueType := "bool"
      level := "advanced"
      description := "whether to enable caching (writeback unless rbd_cache_max_dirty is 0)"
      default := .ofText "true"
      daemonDefault := .ofText ""
      services := ["rbd"]
      canUpdateAtRuntime := true },
  { Parameter.named "rbd_cache_size" with
      valueType := "size"
      level := "advanced"
      description := "cache size in bytes"
      default := .ofInt 33554432
      daemonDefault := .ofText ""
      services := ["rbd"]
      canUpdateAtRuntime := true },
  { Parameter.named "rbd_mirror_concurrent_image_syncs" with
      valueType := "uint"
      level := "advanced"
      description := "maximum number of image syncs in parallel"
      default := .ofInt 5
      daemonDefault := .ofText ""
      services := ["rbd-mirror"]
      canUpdateAtRuntime := true },
  { Parameter.named "rbd_qos_schedule_tick_min" with
      valueType := "millisecs"
      level := "advanced"
      description := "minimum schedule tick (in milliseconds) for QoS"
      longDescription :=
        "This determines the minimum time (in milliseconds) at which I/Os can become " ++
          "unblocked if the limit of a throttle is hit."
      default := .ofInt 50
      daemonDefault := .ofText ""
      services := ["rbd"]
      seeAlso := ["rbd_qos_iops_limit"]
      min := some (.ofDecimal false 1 0)
      canUpdateAtRuntime := true },
  { Parameter.named "rgw_dns_name" with
      valueType := "str"
      level := "advanced"
      description := "The host names that RGW uses."
      longDescription :=
        "A comma separated list of DNS names. This is Needed for virtual hosting of " ++
          "buckets to work properly, unless configured via zonegroup configuration."
      default := .ofText ""
      daemonDefault := .ofText ""
      services := ["rgw"] },
  { Parameter.named "rgw_max_chunk_size" with
      valueType := "size"
      level := "advanced"
      description := "The maximum RGW chunk size"
      longDescription :=
        "The chunk size is the size of RADOS I/O requests that RGW sends when accessing " ++
          "data objects."
      default := .ofInt 4194304
      daemonDefault := .ofText ""
      services := ["rgw"] },
  { Parameter.named "rgw_thread_pool_size" with
      valueType := "int"
      level := "basic"
      description := "RGW requests handling thread pool size."
      longDescription :=
        "This parameter determines the number of concurrent requests RGW can process when " ++
          "using either the civetweb or the beast frontends."
      default := .ofInt 512
      daemonDefault := .ofText ""
      tags := ["performance"]
      services := ["rgw"] }
  ]

/-- The bundled names ascend. -/
theorem bundledParameters_ascending :
    checkAscending (bundledParameters.map (·.name)) = .ok () := by
  rfl

def Catalog.bundled : Catalog :=
  ⟨bundledParameters, pairwise_of_checkAscending bundledParameters_ascending⟩

end Tunables
