import Datestamp.Format

/-!
# The help screen
-/

namespace Datestamp

/-- The help screen of a program of the given name. -/
def helpText (program : Text) : Text :=
  program ++ ": ".toList ++ program ++ " [options]

Print the time date stamp of now to stdout. If --file is given, print the
change time of FILE instead; options are

  --file=FILE       print the time date stamp of FILE
  --format=STR      set the format string (default: ".toList ++ Format.default ++ ")
  -h, -?, --help    print this screen and exit
  --version         print the version and exit

The format string is printed as is except for these directives:

  %%                a literal %
  %Y                year, 4 digits
  %m                month (01-12)
  %d                day of month (01-31)
  %H                hour (00-23)
  %M                minute (00-59)
  %S                second (00-60)
  %w                day of week (0 is Monday, 6 is Sunday)
  %j                day of year (001-366)
  %Z                time zone name
  %z                time zone offset including DST (+HHMM)
  %!z               time zone offset excluding DST (+HHMM)
  %*z               DST offset (+HHMM)

A digit between the % (or the ! and * flags) and the z selects one part of the
offset: 0 the sign (+/-), 1 the hour, 2 the minute, 3 the second. For example
%!1z is the hour of the time zone offset excluding DST and %*0z is the sign of
the DST offset.
".toList

end Datestamp
