/-
# Headers of the standard libraries

The headers of the C and C++ standard libraries, among them those without an extension, which no
rule on file names would recognise.
-/

namespace HeaderSearch.Platform

/-- The names of the standard headers, with a few that are deprecated. -/
def standardHeaders : List String :=
  ["algorithm", "any", "array", "assert.h", "atomic", "barrier", "bit", "bitset", "cassert",
   "cctype", "cerrno", "cfenv", "cfloat", "charconv", "chrono", "cinttypes", "climits", "clocale",
   "cmath", "codecvt", "compare", "complex", "complex.h", "concepts", "condition_variable",
   "coroutine", "csetjmp", "csignal", "cstdarg", "cstddef", "cstdint", "cstdio", "cstdlib",
   "cstring", "ctime", "ctype.h", "deque", "errno.h", "exception", "execution", "fenv.h",
   "filesystem", "float.h", "format", "forward_list", "fstream", "functional", "future", "glibc",
   "initializer_list", "inttypes.h", "iomanip", "ios", "iosfwd", "iostream", "iso646.h",
   "istream", "iterator", "latch", "limits", "limits.h", "list", "locale", "locale.h", "map",
   "math.h", "memory", "memory_resource", "mutex", "new", "numbers", "numeric", "optional",
   "ostream", "queue", "random", "ranges", "ratio", "regex", "scoped_allocator", "semaphore",
   "set", "setjmp.h", "shared_mutex", "signal.h", "source_location", "span", "sstream", "stack",
   "stacktrace", "stdalign.h", "stdarg.h", "stdatomic.h", "stdbool.h", "stddef.h", "stdexcept",
   "stdint.h", "stdio.h", "stdlib.h", "stdnoreturn.h", "stop_token", "streambuf", "string",
   "string.h", "strstream", "syncstream", "system_error", "tgmath.h", "thread", "threads.h",
   "time.h", "tuple", "type_traits", "typeindex", "typeinfo", "uchar.h", "unordered_map",
   "unordered_set", "utility", "valarray", "variant", "vector", "version", "wchar.h", "wctype.h",
   "windows.h"]

end HeaderSearch.Platform
