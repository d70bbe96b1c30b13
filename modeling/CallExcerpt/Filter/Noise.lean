/-! # Noise

    Helpers of an operating-system kernel that nearly every function calls.
    They fill a call graph without saying much about the flow of control.
-/

namespace CallExcerpt.Noise

/-- Locks. -/
def locking : List String := [
  "spin_lock", "spin_unlock", "spin_lock_irq", "spin_unlock_irq", "spin_lock_irqsave",
  "spin_unlock_irqrestore", "spin_lock_bh", "spin_unlock_bh", "spin_trylock", "_raw_spin_lock",
  "_raw_spin_unlock", "_raw_spin_lock_irq", "_raw_spin_unlock_irq", "_raw_spin_lock_irqsave",
  "_raw_spin_unlock_irqrestore", "_raw_spin_lock_bh", "_raw_spin_unlock_bh", "raw_spin_lock",
  "raw_spin_unlock", "read_lock", "read_unlock", "write_lock", "write_unlock", "_raw_read_lock",
  "_raw_read_unlock", "_raw_write_lock", "_raw_write_unlock", "mutex_lock", "mutex_unlock",
  "mutex_trylock", "mutex_lock_interruptible", "down_read", "up_read", "down_write", "up_write",
  "down", "up", "rcu_read_lock", "rcu_read_unlock", "rcu_read_lock_held", "synchronize_rcu",
  "local_bh_disable", "local_bh_enable"]

/-- Scheduling and preemption. -/
def scheduling : List String := [
  "schedule", "cond_resched", "_cond_resched", "might_sleep", "__might_sleep", "___might_sleep",
  "might_fault", "__might_fault", "preempt_disable", "preempt_enable", "preempt_schedule",
  "preempt_count_add", "preempt_count_sub", "local_irq_save", "local_irq_restore",
  "local_irq_disable", "local_irq_enable", "get_current", "wake_up_process", "__wake_up"]

/-- Barriers and atomic operations. -/
def barriers : List String := [
  "barrier", "mb", "rmb", "wmb", "smp_mb", "smp_rmb", "smp_wmb", "atomic_read", "atomic_set",
  "atomic_inc", "atomic_dec", "atomic_add", "atomic_sub", "atomic_inc_return",
  "atomic_dec_and_test", "atomic_long_read", "atomic_long_inc", "atomic_long_dec"]

/-- Operations on single bits. -/
def bits : List String := [
  "set_bit", "clear_bit", "change_bit", "test_bit", "test_and_set_bit", "test_and_clear_bit",
  "__set_bit", "__clear_bit", "find_first_bit", "find_next_bit", "find_first_zero_bit",
  "find_next_zero_bit", "fls", "ffs", "__fls", "__ffs", "hweight32", "hweight64", "__fswab16",
  "__fswab32", "__fswab64"]

/-- Diagnostics. -/
def diagnostics : List String := [
  "printk", "_printk", "pr_debug", "warn_slowpath_fmt", "__warn_printk", "dump_stack", "panic",
  "__bug", "__builtin_expect", "__builtin_return_address", "lockdep_assert_held", "lock_acquire",
  "lock_release", "lock_is_held_type", "check_preemption_disabled", "debug_smp_processor_id"]

/-- Memory and text helpers. -/
def memory : List String := [
  "memset", "memcpy", "memmove", "memcmp", "strlen", "strcmp", "strncmp", "kmalloc", "kzalloc",
  "kfree", "kmem_cache_alloc", "kmem_cache_free", "__kmalloc", "kvfree", "vfree"]

/-- All noise. -/
def names : List String := locking ++ scheduling ++ barriers ++ bits ++ diagnostics ++ memory

end CallExcerpt.Noise
