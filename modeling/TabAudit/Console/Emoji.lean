import TabAudit.Text.Case
/-!
# Emoji codes

A name between two colons stands for an emoji, whatever the case of its letters. It may end in
`-emoji` or `-text`, which asks for a way to draw it. These are the names that are met most; what is
known of lines on a terminal is so whatever further names there are.
-/

namespace TabAudit.Console

/-- Emoji by their names in lower case. -/
def emojiNames : List (String × Char) :=
  [("+1", '👍'), ("-1", '👎'), ("100", '💯'), ("1234", '🔢'), ("8ball", '🎱'), ("a", '🅰'),
   ("ab", '🆎'), ("abc", '🔤'), ("abcd", '🔡'), ("airplane", '✈'), ("alarm_clock", '⏰'),
   ("alien", '👽'), ("ambulance", '🚑'), ("anchor", '⚓'), ("anger", '💢'), ("angry", '😠'),
   ("anguished", '😧'), ("ant", '🐜'), ("apple", '🍎'), ("arrow_down_small", '🔽'),
   ("arrow_up_small", '🔼'), ("art", '🎨'), ("astonished", '😲'), ("atm", '🏧'), ("b", '🅱'),
   ("baby", '👶'), ("back", '🔙'), ("balloon", '🎈'), ("banana", '🍌'), ("bank", '🏦'),
   ("bar_chart", '📊'), ("basketball", '🏀'), ("battery", '🔋'), ("bear", '🐻'), ("bee", '🐝'),
   ("beer", '🍺'), ("beers", '🍻'), ("beetle", '🐞'), ("bell", '🔔'), ("bike", '🚲'), ("bird", '🐦'),
   ("blue_heart", '💙'), ("blush", '😊'), ("bomb", '💣'), ("book", '📖'), ("books", '📚'),
   ("boom", '💥'), ("boy", '👦'), ("brain", '🧠'), ("broken_heart", '💔'), ("bug", '🐛'),
   ("bulb", '💡'), ("bus", '🚌'), ("cactus", '🌵'), ("cake", '🍰'), ("calendar", '📆'), ("car", '🚗'),
   ("cat", '🐱'), ("cat_face", '🐱'), ("cd", '💿'), ("chart_with_downwards_trend", '📉'),
   ("chart_with_upwards_trend", '📈'), ("checkered_flag", '🏁'), ("cherries", '🍒'),
   ("cherry_blossom", '🌸'), ("chicken", '🐔'), ("christmas_tree", '🎄'), ("church", '⛪'),
   ("cl", '🆑'), ("clap", '👏'), ("clapping_hands", '👏'), ("clipboard", '📋'), ("coffee", '☕'),
   ("cold_sweat", '😰'), ("collision", '💥'), ("computer", '💻'), ("confetti_ball", '🎊'),
   ("confounded", '😖'), ("confused", '😕'), ("construction", '🚧'), ("cookie", '🍪'),
   ("cool", '🆒'), ("cop", '👮'), ("cow", '🐮'), ("crab", '🦀'), ("cross_mark", '❌'),
   ("crown", '👑'), ("cry", '😢'), ("crying_face", '😢'), ("dart", '🎯'), ("dash", '💨'),
   ("date", '📅'), ("disappointed", '😞'), ("dizzy", '💫'), ("dizzy_face", '😵'), ("dog", '🐶'),
   ("dog_face", '🐶'), ("dollar", '💵'), ("dolphin", '🐬'), ("droplet", '💧'), ("ear", '👂'),
   ("earth_africa", '🌍'), ("earth_americas", '🌎'), ("earth_asia", '🌏'), ("electric_plug", '🔌'),
   ("email", '📧'), ("end", '🔚'), ("envelope_with_arrow", '📩'), ("evergreen_tree", '🌲'),
   ("exclamation", '❗'), ("expressionless", '😑'), ("eyes", '👀'),
   ("face_with_tears_of_joy", '😂'), ("fearful", '😨'), ("file_folder", '📁'), ("fire", '🔥'),
   ("fish", '🐟'), ("fist", '✊'), ("flexed_biceps", '💪'), ("floppy_disk", '💾'), ("flushed", '😳'),
   ("folded_hands", '🙏'), ("football", '🏈'), ("four_leaf_clover", '🍀'), ("fox_face", '🦊'),
   ("free", '🆓'), ("fries", '🍟'), ("frog", '🐸'), ("frowning", '😦'), ("gem", '💎'),
   ("ghost", '👻'), ("gift", '🎁'), ("girl", '👧'), ("grapes", '🍇'), ("green_apple", '🍏'),
   ("green_heart", '💚'), ("grimacing", '😬'), ("grin", '😁'), ("grinning", '😀'),
   ("grinning_face", '😀'), ("guitar", '🎸'), ("gun", '🔫'), ("hamburger", '🍔'), ("hammer", '🔨'),
   ("hamster", '🐹'), ("hand", '✋'), ("hankey", '💩'), ("hear_no_evil", '🙉'), ("heart", '❤'),
   ("heart_eyes", '😍'), ("heart_eyes_cat", '😻'), ("heartbeat", '💓'), ("hospital", '🏥'),
   ("hourglass", '⌛'), ("house", '🏠'), ("hushed", '😯'), ("id", '🆔'), ("imp", '👿'),
   ("inbox_tray", '📥'), ("innocent", '😇'), ("iphone", '📱'), ("jack_o_lantern", '🎃'),
   ("joy", '😂'), ("joy_cat", '😹'), ("key", '🔑'), ("keycap_ten", '🔟'), ("kiss", '💋'),
   ("kissing", '😗'), ("kissing_heart", '😘'), ("koala", '🐨'), ("laughing", '😆'),
   ("light_bulb", '💡'), ("link", '🔗'), ("lips", '👄'), ("lock", '🔒'),
   ("loudly_crying_face", '😭'), ("loudspeaker", '📢'), ("m", 'Ⓜ'), ("mag", '🔍'),
   ("mag_right", '🔎'), ("man", '👨'), ("mask", '😷'), ("mega", '📣'), ("memo", '📝'),
   ("money_with_wings", '💸'), ("moneybag", '💰'), ("monkey", '🐒'), ("monkey_face", '🐵'),
   ("moon", '🌔'), ("mouse", '🐭'), ("muscle", '💪'), ("mushroom", '🍄'), ("musical_note", '🎵'),
   ("neutral_face", '😐'), ("new", '🆕'), ("ng", '🆖'), ("no_bell", '🔕'), ("no_entry", '⛔'),
   ("no_entry_sign", '🚫'), ("no_mouth", '😶'), ("nose", '👃'), ("notes", '🎶'),
   ("nut_and_bolt", '🔩'), ("o", '⭕'), ("ocean", '🌊'), ("octopus", '🐙'), ("office", '🏢'),
   ("ok", '🆗'), ("ok_hand", '👌'), ("on", '🔛'), ("open_file_folder", '📂'), ("open_hands", '👐'),
   ("open_mouth", '😮'), ("outbox_tray", '📤'), ("package", '📦'), ("page_facing_up", '📄'),
   ("page_with_curl", '📃'), ("palm_tree", '🌴'), ("panda_face", '🐼'), ("paperclip", '📎'),
   ("party_popper", '🎉'), ("peach", '🍑'), ("pencil", '📝'), ("penguin", '🐧'), ("pensive", '😔'),
   ("persevere", '😣'), ("pig", '🐷'), ("pile_of_poo", '💩'), ("pizza", '🍕'), ("point_down", '👇'),
   ("point_left", '👈'), ("point_right", '👉'), ("point_up_2", '👆'), ("poop", '💩'), ("pray", '🙏'),
   ("punch", '👊'), ("purple_heart", '💜'), ("pushpin", '📌'), ("question", '❓'), ("rabbit", '🐰'),
   ("rage", '😡'), ("rainbow", '🌈'), ("raised_hand", '✋'), ("raised_hands", '🙌'),
   ("red_heart", '❤'), ("relieved", '😌'), ("robot_face", '🤖'), ("rocket", '🚀'), ("rose", '🌹'),
   ("rotating_light", '🚨'), ("santa", '🎅'), ("satisfied", '😆'), ("school", '🏫'),
   ("scream", '😱'), ("see_no_evil", '🙈'), ("seedling", '🌱'), ("ship", '🚢'), ("skull", '💀'),
   ("sleeping", '😴'), ("sleepy", '😪'), ("smile", '😄'), ("smile_cat", '😸'), ("smiley", '😃'),
   ("smiley_cat", '😺'), ("smiling_imp", '😈'), ("smirk", '😏'), ("snake", '🐍'), ("sob", '😭'),
   ("soccer", '⚽'), ("soon", '🔜'), ("sos", '🆘'), ("sparkles", '✨'), ("sparkling_heart", '💖'),
   ("speak_no_evil", '🙊'), ("speech_balloon", '💬'), ("star", '⭐'), ("star2", '🌟'),
   ("strawberry", '🍓'), ("stuck_out_tongue", '😛'), ("stuck_out_tongue_winking_eye", '😜'),
   ("sun_with_face", '🌞'), ("sunflower", '🌻'), ("sunglasses", '😎'), ("sweat", '😓'),
   ("sweat_drops", '💦'), ("sweat_smile", '😅'), ("symbols", '🔣'), ("tada", '🎉'), ("tea", '🍵'),
   ("tennis", '🎾'), ("tent", '⛺'), ("test_tube", '🧪'), ("thought_balloon", '💭'),
   ("thumbs_down", '👎'), ("thumbs_up", '👍'), ("thumbsdown", '👎'), ("thumbsup", '👍'),
   ("tiger", '🐯'), ("tired_face", '😫'), ("tm", '™'), ("tongue", '👅'), ("top", '🔝'),
   ("train", '🚋'), ("triangular_flag_on_post", '🚩'), ("triumph", '😤'), ("trophy", '🏆'),
   ("turtle", '🐢'), ("tv", '📺'), ("two_hearts", '💕'), ("umbrella", '☔'), ("unamused", '😒'),
   ("unicorn_face", '🦄'), ("unlock", '🔓'), ("up", '🆙'), ("v", '✌'), ("vampire", '🧛'),
   ("video_game", '🎮'), ("vs", '🆚'), ("warning", '⚠'), ("watch", '⌚'), ("watermelon", '🍉'),
   ("wave", '👋'), ("waving_hand", '👋'), ("wc", '🚾'), ("weary", '😩'), ("whale", '🐳'),
   ("white_check_mark", '✅'), ("wink", '😉'), ("winking_face", '😉'), ("woman", '👩'),
   ("worried", '😟'), ("wrench", '🔧'), ("x", '❌'), ("yellow_heart", '💛'), ("yum", '😋'),
   ("zap", '⚡'), ("zombie", '🧟'), ("zzz", '💤')]

/-- The ways to draw an emoji, with the character that asks for each. -/
def emojiVariants : List (List Char × Char) :=
  [("-emoji".toList, '\uFE0F'), ("-text".toList, '\uFE0E')]

/-- A name without the way to draw it, and the character that asks for that. -/
def splitVariant (name : List Char) : List Char × List Char :=
  match emojiVariants.find? fun (ending, _) => ending.isSuffixOf name with
  | some (ending, mark) => (name.take (name.length - ending.length), [mark])
  | none => (name, [])

/-- The emoji of a name. -/
def emoji? (name : List Char) : Option (List Char) :=
  let (name, mark) := splitVariant name
  (emojiNames.lookup (lowerCase (String.ofList name))).map fun c => c :: mark

end TabAudit.Console
