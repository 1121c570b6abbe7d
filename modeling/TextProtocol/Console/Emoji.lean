import TextProtocol.Text.Blank
import TextProtocol.Text.CharacterName
import TextProtocol.Text.LetterCase

/-!
# Picture codes

The console shows a picture in place of its name between two colons. A name may end in `-text` or
`-emoji` to ask for a plain or a coloured picture.
-/

namespace TextProtocol.Console

/-- The names of pictures, with bars between them and the picture after them. A flag is told by two
letters. A name with a caret in front of it is also found after `flag_for_`. One with an ampersand
stands for a man and a woman with the picture, and one with an asterisk for the picture of a man and
that of a woman. One with a tilde after it is also found in the five tones of skin. -/
def pictureTable : String := r#"
  1st_place_medal 🥇 2nd_place_medal 🥈 3rd_place_medal 🥉 ab_button_(blood_type)|ab 🆎 atm_sign|atm 🏧
  a_button_(blood_type)|a 🅰 ^afghanistan AF ^albania AL ^algeria DZ ^american_samoa AS ^andorra AD
  ^angola AO ^anguilla AI ^antarctica AQ ^antigua_&_barbuda AG ^argentina AR ^armenia AM ^aruba AW
  ^ascension_island AC ^australia AU ^austria AT ^azerbaijan AZ back_arrow|back 🔙
  b_button_(blood_type)|b 🅱 ^bahamas BS ^bahrain BH ^bangladesh BD ^barbados BB ^belarus BY
  ^belgium BE ^belize BZ ^benin BJ ^bermuda BM ^bhutan BT ^bolivia BO ^bosnia_&_herzegovina BA
  ^botswana BW ^bouvet_island BV ^brazil BR ^british_indian_ocean_territory IO
  ^british_virgin_islands VG ^brunei BN ^bulgaria BG ^burkina_faso BF ^burundi BI cl_button|cl 🆑
  cool_button|cool 🆒 ^cambodia KH ^cameroon CM ^canada CA ^canary_islands IC ^cape_verde CV
  ^caribbean_netherlands BQ ^cayman_islands KY ^central_african_republic CF ^ceuta_&_melilla EA
  ^chad TD ^chile CL ^china CN ^christmas_island CX ^clipperton_island CP
  cocos_(keeling)_islands|flag_for_cocos__islands CC ^colombia CO ^comoros KM
  congo_-_brazzaville|flag_for_congo____brazzaville CG
  congo_-_kinshasa|flag_for_congo____kinshasa CD ^cook_islands CK ^costa_rica CR ^croatia HR
  ^cuba CU ^curaçao CW ^cyprus CY czechia|flag_for_czech_republic CZ ^côte_d’ivoire CI ^denmark DK
  ^diego_garcia DG ^djibouti DJ ^dominica DM ^dominican_republic DO end_arrow|end 🔚 ^ecuador EC
  ^egypt EG ^el_salvador SV england 🏴󠁧󠁢󠁥󠁮󠁧󠁿 ^equatorial_guinea GQ ^eritrea ER ^estonia EE
  ^ethiopia ET ^european_union EU free_button|free 🆓 ^falkland_islands FK ^faroe_islands FO ^fiji FJ
  ^finland FI ^france FR ^french_guiana GF ^french_polynesia PF ^french_southern_territories TF
  ^gabon GA ^gambia GM ^georgia GE ^germany DE ^ghana GH ^gibraltar GI ^greece GR ^greenland GL
  ^grenada GD ^guadeloupe GP ^guam GU ^guatemala GT ^guernsey GG ^guinea GN
  guinea-bissau|flag_for_guinea__bissau GW ^guyana GY ^haiti HT ^heard_&_mcdonald_islands HM
  ^honduras HN hong_kong_sar_china|flag_for_hong_kong HK ^hungary HU id_button|id 🆔 ^iceland IS
  ^india IN ^indonesia ID ^iran IR ^iraq IQ ^ireland IE ^isle_of_man IM ^israel IL ^italy IT
  ^jamaica JM japan|map_of_japan 🗾 japanese_acceptable_button|accept 🉑
  japanese_application_button|u7533 🈸 japanese_bargain_button|ideograph_advantage 🉐
  japanese_congratulations_button|congratulations ㊗ japanese_discount_button|u5272 🈹
  japanese_free_of_charge_button|u7121 🈚 japanese_here_button|koko 🈁
  japanese_monthly_amount_button|u6708 🈷 japanese_no_vacancy_button|u6e80 🈵
  japanese_not_free_of_charge_button|u6709 🈶 japanese_open_for_business_button|u55b6 🈺
  japanese_passing_grade_button|u5408 🈴 japanese_prohibited_button|u7981 🈲
  japanese_reserved_button|u6307 🈯 japanese_secret_button|secret ㊙
  japanese_service_charge_button|sa 🈂 japanese_vacancy_button|u7a7a 🈳 ^jersey JE ^jordan JO
  ^kazakhstan KZ ^kenya KE ^kiribati KI ^kosovo XK ^kuwait KW ^kyrgyzstan KG ^laos LA ^latvia LV
  ^lebanon LB ^lesotho LS ^liberia LR ^libya LY ^liechtenstein LI ^lithuania LT ^luxembourg LU
  macau_sar_china|flag_for_macau MO ^macedonia MK ^madagascar MG ^malawi MW ^malaysia MY
  ^maldives MV ^mali ML ^malta MT ^marshall_islands MH ^martinique MQ ^mauritania MR ^mauritius MU
  ^mayotte YT ^mexico MX ^micronesia FM ^moldova MD ^monaco MC ^mongolia MN ^montenegro ME
  ^montserrat MS ^morocco MA ^mozambique MZ mrs._claus~ 🤶 myanmar_(burma)|flag_for_myanmar MM
  new_button|new 🆕 ng_button|ng 🆖 ^namibia NA ^nauru NR ^nepal NP ^netherlands NL ^new_caledonia NC
  ^new_zealand NZ ^nicaragua NI ^niger NE ^nigeria NG ^niue NU ^norfolk_island NF ^north_korea KP
  ^northern_mariana_islands MP ^norway NO ok_button|ok 🆗 ok_hand~ 👌 on!_arrow|on 🔛
  o_button_(blood_type)|o2 🅾 ^oman OM p_button|parking 🅿 ^pakistan PK ^palau PW
  ^palestinian_territories PS ^panama PA ^papua_new_guinea PG ^paraguay PY ^peru PE ^philippines PH
  ^pitcairn_islands PN ^poland PL ^portugal PT ^puerto_rico PR ^qatar QA ^romania RO ^russia RU
  ^rwanda RW ^réunion RE soon_arrow|soon 🔜 sos_button|sos 🆘 ^samoa WS ^san_marino SM
  santa_claus~|santa 🎅 ^saudi_arabia SA scorpio ♏ scotland 🏴󠁧󠁢󠁳󠁣󠁴󠁿 ^senegal SN ^serbia RS
  ^seychelles SC ^sierra_leone SL ^singapore SG ^sint_maarten SX ^slovakia SK ^slovenia SI
  ^solomon_islands SB ^somalia SO ^south_africa ZA ^south_georgia_&_south_sandwich_islands GS
  ^south_korea KR ^south_sudan SS ^spain ES ^sri_lanka LK ^st._barthélemy BL ^st._helena SH
  ^st._kitts_&_nevis KN ^st._lucia LC ^st._martin MF ^st._pierre_&_miquelon PM
  ^st._vincent_&_grenadines VC ^sudan SD ^suriname SR ^svalbard_&_jan_mayen SJ ^swaziland SZ
  ^sweden SE ^switzerland CH ^syria SY ^são_tomé_&_príncipe ST top_arrow|top 🔝 ^taiwan TW
  ^tajikistan TJ ^tanzania TZ ^thailand TH timor-leste|flag_for_timor__leste TL ^togo TG ^tokelau TK
  ^tonga TO ^trinidad_&_tobago TT ^tristan_da_cunha TA ^tunisia TN ^turkmenistan TM
  ^turks_&_caicos_islands TC ^tuvalu TV ^u.s._outlying_islands UM ^u.s._virgin_islands VI
  up!_button|up 🆙 ^uganda UG ^ukraine UA ^united_arab_emirates AE ^united_kingdom GB
  united_nations UN ^united_states US ^uruguay UY ^uzbekistan UZ vs_button|vs 🆚 ^vanuatu VU
  ^vatican_city VA ^venezuela VE ^vietnam VN wales 🏴󠁧󠁢󠁷󠁬󠁳󠁿 ^wallis_&_futuna WF ^western_sahara EH
  ^yemen YE ^zambia ZM ^zimbabwe ZW adult~ 🧑 airplane_arrival 🛬 alien 👽 angry_face_with_horns 👿
  antenna_bars|signal_strength 📶 anxious_face_with_sweat|cold_sweat 😰 baby~ 👶 baby_angel~|angel 👼
  backhand_index_pointing_down~|point_down 👇 backhand_index_pointing_left~|point_left 👈
  backhand_index_pointing_right~|point_right 👉 backhand_index_pointing_up~|point_up_2 👆 badminton 🏸
  balance_scale ⚖ bald 🦲 bald_man 👨‍🦲 bald_woman 👩‍🦲 basketball 🏀
  beaming_face_with_smiling_eyes|grin 😁 bearded_person~ 🧔 bell_with_slash|no_bell 🔕 biohazard ☣
  black_circle ⚫ black_flag 🏴 black_medium-small_square ◾ blond-haired_man~ 👱‍♂️
  blond-haired_person~ 👱 blond-haired_woman~ 👱‍♀️ blue_circle 🔵 blue_square 🟦 boy~ 👦
  breast-feeding~ 🤱 bride_with_veil~ 👰 bright_button|high_brightness 🔆 brown_circle 🟤 brown_square 🟫
  bullet_train|bullettrain_front 🚅 calendar 📆 call_me_hand~ 🤙 camel|two-hump_camel 🐫 castle 🏰 cat 🐱
  chart_decreasing 📉 chart_increasing 📈 chart_increasing_with_yen|chart 💹 chess_pawn ♟ child~ 🧒
  cigarette|smoking 🚬 circled_m|m Ⓜ clamp 🗜 clapping_hands~|clap 👏
  clockwise_vertical_arrows|arrows_clockwise 🔃 cloud_with_lightning_and_rain ⛈ club_suit|clubs ♣
  clutch_bag 👝 cold_face 🥶 collision|boom 💥 computer_disk 💽 computer_mouse 🖱 construction 🚧
  construction_worker~ 👷 copyright © counterclockwise_arrows_button|arrows_counterclockwise 🔄
  couple_with_heart_man_man 👨‍❤️‍👨 couple_with_heart_woman_man 👩‍❤️‍👨
  couple_with_heart_woman_woman 👩‍❤️‍👩 cow 🐮 cowboy_hat_face 🤠 crayon 🖍 cricket_game 🏏
  cross_mark_button ❎ crossed_fingers~ 🤞 curly_hair 🦱 curly-haired_man 👨‍🦱 curly-haired_woman 👩‍🦱
  curry_rice|curry 🍛 dagger 🗡 dashing_away|dash 💨 derelict_house 🏚 detective~ 🕵
  diamond_suit|diamonds ♦ diamond_with_a_dot 💠 dim_button|low_brightness 🔅 dizzy 💫 dna 🧬 dog 🐶
  dollar_banknote|dollar 💵 dotted_six-pointed_star|six_pointed_star 🔯 dove 🕊
  down-left_arrow|arrow_lower_left ↙ down-right_arrow|arrow_lower_right ↘ down_arrow|arrow_down ⬇
  downcast_face_with_sweat|sweat 😓 downwards_button|arrow_down_small 🔽 drum 🥁 e-mail|e__mail 📧
  ear~ 👂 ear_of_corn|corn 🌽 egg 🍳 eggplant 🍆 eight-pointed_star ✴ eight-spoked_asterisk ✳
  eight-thirty|clock830 🕣 eight_o’clock|clock8 🕗 eject_button ⏏ eleven-thirty|clock1130 🕦
  eleven_o’clock|clock11 🕚 elf~ 🧝 envelope_with_arrow 📩 euro_banknote|euro 💶 ewe 🐑
  exclamation_mark|exclamation|heavy_exclamation_mark ❗ exploding_head 🤯 eye_in_speech_bubble 👁️‍🗨️
  face_blowing_a_kiss|kissing_heart 😘 face_savoring_food|yum 😋 face_vomiting 🤮
  face_with_hand_over_mouth 🤭 face_with_raised_eyebrow 🤨 face_with_steam_from_nose|triumph 😤
  face_with_symbols_on_mouth 🤬 face_with_tongue|stuck_out_tongue 😛 fairy~ 🧚
  fast-forward_button|fast_forward ⏩ fast_down_button|arrow_double_down ⏬
  fast_reverse_button|rewind ⏪ fast_up_button|arrow_double_up ⏫ field_hockey 🏑 first_quarter_moon 🌓
  first_quarter_moon_face 🌛 fish_cake_with_swirl|fish_cake 🍥 fishing_pole 🎣 five-thirty|clock530 🕠
  five_o’clock|clock5 🕔 flashlight 🔦 flexed_biceps~|muscle 💪 folded_hands~|pray 🙏 fountain_pen 🖋
  four-thirty|clock430 🕟 four_o’clock|clock4 🕓 framed_picture 🖼 frowning_face ☹ full_moon 🌕
  full_moon_face 🌝 giraffe 🦒 girl~ 👧 glasses 👓 globe_showing_americas|earth_americas 🌎
  globe_showing_asia-australia|earth_asia 🌏 globe_showing_europe-africa|earth_africa 🌍 goblin 👺
  green_circle 🟢 green_square 🟩 grinning_cat_face|smiley_cat 😺 grinning_face_with_big_eyes|smiley 😃
  grinning_face_with_smiling_eyes|smile 😄 grinning_face_with_sweat|sweat_smile 😅
  grinning_squinting_face|laughing|satisfied 😆 guard~ 💂 hand_with_fingers_splayed~ 🖐
  heart_suit|hearts ♥ heavy_heart_exclamation ❣ high_voltage|zap ⚡ horse 🐴 horse_racing~ 🏇
  hot_face 🥵 hourglass_done ⌛ hourglass_not_done|hourglass_flowing_sand ⏳ house 🏠 houses 🏘
  hundred_points|100 💯 ice 🧊 ice_hockey 🏒 index_pointing_up~|point_up ☝ infinity ♾ information ℹ
  input_latin_letters|abc 🔤 input_latin_lowercase|abcd 🔡 input_latin_uppercase|capital_abcd 🔠
  input_numbers|1234 🔢 input_symbols|symbols 🔣 jigsaw 🧩 joker|black_joker 🃏 keycap_# #️⃣
  keycap_* *️⃣ keycap_0|zero 0️⃣ keycap_1|one 1️⃣ keycap_10|ten 🔟 keycap_2|two 2️⃣
  keycap_3|three 3️⃣ keycap_4|four 4️⃣ keycap_5|five 5️⃣ keycap_6|six 6️⃣ keycap_7|seven 7️⃣
  keycap_8|eight 8️⃣ keycap_9|nine 9️⃣ kick_scooter 🛴 kiss 💋 kiss_man_man 👨‍❤️‍💋‍👨
  kiss_woman_man 👩‍❤️‍💋‍👨 kiss_woman_woman 👩‍❤️‍💋‍👩 kissing_cat_face|kissing_cat 😽
  kitchen_knife|knife 🔪 kiwi_fruit 🥝 lacrosse 🥍 laptop_computer|computer 💻 last_quarter_moon 🌗
  last_quarter_moon_face 🌜
  last_track_button|black_left__pointing_double_triangle_with_vertical_bar ⏮ left-facing_fist~ 🤛
  left-right_arrow ↔ left_arrow|arrow_left ⬅ left_arrow_curving_right|arrow_right_hook ↪
  light_bulb|bulb 💡 link 🔗 litter_in_bin_sign|put_litter_in_its_place 🚮 locked 🔒 locked_with_key 🔐
  locked_with_pen 🔏 locomotive 🚂 loudspeaker 📢 love-you_gesture~ 🤟 mage~ 🧙
  magnifying_glass_tilted_left|mag 🔍 magnifying_glass_tilted_right|mag_right 🔎
  mahjong_red_dragon|mahjong 🀄 man~ 👨 &artist~ 🎨 &astronaut~ 🚀 *biking~ 🚴 *bouncing_ball~ ⛹️
  *bowing~ 🙇 *cartwheeling~ 🤸 *climbing~ 🧗 *construction_worker~ 👷 &cook~ 🍳 man_dancing~ 🕺
  *detective~ 🕵️ *elf~ 🧝 *facepalming~ 🤦 &factory_worker~ 🏭 *fairy~ 🧚 &farmer~ 🌾 &firefighter~ 🚒
  *frowning~ 🙍 *genie 🧞 *gesturing_no~ 🙅 *gesturing_ok~ 🙆 *getting_haircut~ 💇 *getting_massage~ 💆
  *golfing~ 🏌️ *guard~ 💂 &health_worker~ ⚕️ *in_lotus_position~ 🧘 &in_manual_wheelchair 🦽
  &in_motorized_wheelchair 🦼 *in_steamy_room~ 🧖 man_in_suit_levitating~ 🕴 man_in_tuxedo~ 🤵
  &judge~ ⚖️ *juggling~ 🤹 *lifting_weights~ 🏋️ *mage~ 🧙 &mechanic~ 🔧 *mountain_biking~ 🚵
  &office_worker~ 💼 &pilot~ ✈️ *playing_handball~ 🤾 *playing_water_polo~ 🤽 *police_officer~ 👮
  *pouting~ 🙎 *raising_hand~ 🙋 *rowing_boat~ 🚣 *running~ 🏃 &scientist~ 🔬 *shrugging~ 🤷 &singer~ 🎤
  &student~ 🎓 *surfing~ 🏄 *swimming~ 🏊 &teacher~ 🏫 &technologist~ 💻 *tipping_hand~ 💁 *vampire~ 🧛
  *walking~ 🚶 *wearing_turban~ 👳 &with_probing_cane 🦯 man_with_chinese_cap~ 👲 *zombie 🧟
  man’s_shoe|shoe 👞 mate 🧉 medical_symbol ⚕ megaphone|mega 📣 men_with_bunny_ears 👯‍♂️
  men_wrestling 🤼‍♂️ menorah 🕎 men’s_room|mens 🚹 mermaid~ 🧜‍♀️ merman~ 🧜‍♂️ merperson~ 🧜
  middle_finger~ 🖕 moai 🗿 mobile_phone_with_arrow|calling 📲 motorcycle 🏍 mouse 🐭
  musical_notes|notes 🎶 muted_speaker|mute 🔇 nail_polish~|nail_care 💅 new_moon 🌑 new_moon_face 🌚
  next_track_button|black_right__pointing_double_triangle_with_vertical_bar ⏭ nine-thirty|clock930 🕤
  nine_o’clock|clock9 🕘 no_littering|do_not_litter 🚯 no_one_under_eighteen|underage 🔞 no_smoking 🚭
  non-potable_water|non__potable_water 🚱 nose~ 👃 ogre 👹 old_man~ 👴 old_woman~ 👵 older_adult~ 🧓 om 🕉
  oncoming_fist~|facepunch|punch 👊 one-thirty|clock130 🕜 one_o’clock|clock1 🕐 open_hands~ 👐
  optical_disk|cd 💿 orange_circle 🟠 orange_square 🟧 paintbrush 🖌 palms_up_together~ 🤲
  partying_face 🥳 pause_button ⏸ pen 🖊 pencil 📝 people_holding_hands 🧑‍🤝‍🧑
  people_with_bunny_ears|dancers 👯 people_wrestling 🤼 person_biking~ 🚴 person_bouncing_ball~ ⛹
  person_bowing~|bow 🙇 person_cartwheeling~ 🤸 person_climbing~ 🧗 person_facepalming~ 🤦
  person_fencing 🤺 person_frowning~ 🙍 person_gesturing_no~|no_good 🙅 person_gesturing_ok~|ok_woman 🙆
  person_getting_haircut~ 💇 person_getting_massage~|massage 💆 person_golfing~ 🏌 person_in_bed~ 🛌
  person_in_lotus_position~ 🧘 person_in_steamy_room~ 🧖 person_juggling~ 🤹 person_kneeling 🧎
  person_lifting_weights~ 🏋 person_mountain_biking~ 🚵 person_playing_handball~ 🤾
  person_playing_water_polo~ 🤽 person_pouting~ 🙎 person_raising_hand~|raising_hand 🙋
  person_rowing_boat~ 🚣 person_running~|running 🏃 person_shrugging~ 🤷 person_standing 🧍
  person_surfing~ 🏄 person_swimming~ 🏊 person_taking_bath~ 🛀 person_tipping_hand~ 💁
  person_walking~|walking 🚶 person_wearing_turban~ 👳 pig 🐷 ping_pong 🏓 pirate_flag 🏴‍☠️ pizza 🍕
  play_button|arrow_forward ▶
  play_or_pause_button|black_right__pointing_triangle_with_double_vertical_bar ⏯ pleading_face 🥺
  police_car_light|rotating_light 🚨 police_officer~|cop 👮 pool_8_ball|8ball 🎱 post_office 🏣
  potable_water 🚰 pound_banknote|pound 💷 pregnant_woman~ 🤰 prince~ 🤴 princess~ 👸 prohibited 🚫
  purple_circle 🟣 purple_square 🟪 question_mark|question ❓ rabbit 🐰 radioactive ☢ rainbow_flag 🏳️‍🌈
  raised_back_of_hand~ 🤚 raised_fist~|fist ✊ raised_hand~|hand ✋ raising_hands~|raised_hands 🙌
  record_button ⏺ recycling_symbol|recycle ♻ red_circle 🔴 red_envelope 🧧 red_hair 🦰
  red-haired_man 👨‍🦰 red-haired_woman 👩‍🦰 red_heart|heart ❤ red_paper_lantern|lantern 🏮 red_square 🟥
  red_triangle_pointed_down|small_red_triangle_down 🔻 red_triangle_pointed_up|small_red_triangle 🔺
  registered ® repeat_button|repeat 🔁 repeat_single_button|repeat_one 🔂 rescue_worker’s_helmet ⛑
  reverse_button|arrow_backward ◀ right-facing_fist~ 🤜 right_arrow|arrow_right ➡
  right_arrow_curving_down|arrow_heading_down ⤵ right_arrow_curving_left ↩
  right_arrow_curving_up|arrow_heading_up ⤴ running_shirt 🎽 running_shoe 👟
  sad_but_relieved_face|disappointed_relieved 😥 salt 🧂 sake 🍶 satellite 📡 school_backpack 🎒
  scissors ✂ selfie~ 🤳 service_dog 🐕‍🦺 seven-thirty|clock730 🕢 seven_o’clock|clock7 🕖
  sheaf_of_rice 🌾 shopping_cart 🛒 shuffle_tracks_button 🔀 shushing_face 🤫 sign_of_the_horns~ 🤘
  six-thirty|clock630 🕡 six_o’clock|clock6 🕕 skis|ski 🎿
  smiling_cat_face_with_heart-eyes|heart_eyes_cat 😻 smiling_face|relaxed ☺
  smiling_face_with_3_hearts 🥰 smiling_face_with_heart-eyes|heart_eyes 😍 snow-capped_mountain 🏔
  snowboarder~ 🏂 soap 🧼 spade_suit|spades ♠ sparkler 🎇 speaker_high_volume|loud_sound 🔊
  speaker_low_volume 🔈 speaker_medium_volume|sound 🔉 speaking_head 🗣 spiral_calendar 🗓
  spiral_notepad 🗒 sport_utility_vehicle|blue_car 🚙
  squinting_face_with_tongue|stuck_out_tongue_closed_eyes 😝 star-struck 🤩 stop_button ⏹ stop_sign 🛑
  sun|sunny ☀ sun_behind_large_cloud 🌥 sun_behind_rain_cloud 🌦 sun_behind_small_cloud 🌤 sunglasses 😎
  sunset|city_sunrise 🌇 sweat_droplets|sweat_drops 💦 telephone|phone ☎ ten-thirty|clock1030 🕥
  ten_o’clock|clock10 🕙 tennis 🎾 thread 🧵 three-thirty|clock330 🕞 three_o’clock|clock3 🕒
  thumbs_down~|__1|-1|thumbsdown 👎 thumbs_up~|+1|thumbsup 👍 tiger 🐯 tornado 🌪 trade_mark|tm ™
  train 🚋 triangular_flag 🚩 twelve-thirty|clock1230 🕧 twelve_o’clock|clock12 🕛 two-thirty|clock230 🕝
  two_o’clock|clock2 🕑 unlocked|unlock 🔓 up-down_arrow|arrow_up_down ↕
  up-left_arrow|arrow_upper_left ↖ up-right_arrow|arrow_upper_right ↗ up_arrow|arrow_up ⬆
  upwards_button|arrow_up_small 🔼 vampire~ 🧛 victory_hand~|v ✌ vulcan_salute~ 🖖
  waning_crescent_moon 🌘 waning_gibbous_moon 🌖 warning ⚠ waving_hand~|wave 👋 waxing_crescent_moon 🌒
  waxing_gibbous_moon|moon 🌔 whale 🐳 white_circle ⚪ white_exclamation_mark|grey_exclamation ❕
  white_flag 🏳 white_hair 🦳 white-haired_man 👨‍🦳 white-haired_woman 👩‍🦳 white_medium-small_square ◽
  white_question_mark|grey_question ❔ wind_face 🌬
  winking_face_with_tongue|stuck_out_tongue_winking_eye 😜 woman~ 👩 woman_dancing~ 💃
  woman_with_headscarf~ 🧕 woman’s_boot|boot 👢 woman’s_clothes 👚 woman’s_hat 👒
  woman’s_sandal|sandal 👡 women_with_bunny_ears 👯‍♀️ women_wrestling 🤼‍♀️ women’s_room|womens 🚺
  woozy_face 🥴 wrapped_gift|gift 🎁 writing_hand~ ✍ yarn 🧶 yellow_circle 🟡 yellow_square 🟨
  yen_banknote|yen 💴 zany_face 🤪 zebra 🦓 zzz 💤 ^åland_islands AX keycap_asterisk *⃣
  keycap_digit_eight 8⃣ keycap_digit_five 5⃣ keycap_digit_four 4⃣ keycap_digit_nine 9⃣
  keycap_digit_one 1⃣ keycap_digit_seven 7⃣ keycap_digit_six 6⃣ keycap_digit_three 3⃣
  keycap_digit_two 2⃣ keycap_digit_zero 0⃣ keycap_number_sign #⃣
  light_skin_tone|emoji_modifier_fitzpatrick_type__1__2 🏻
  medium_light_skin_tone|emoji_modifier_fitzpatrick_type__3 🏼
  medium_skin_tone|emoji_modifier_fitzpatrick_type__4 🏽
  medium_dark_skin_tone|emoji_modifier_fitzpatrick_type__5 🏾
  dark_skin_tone|emoji_modifier_fitzpatrick_type__6 🏿 space_invader 👾 football 🏈 anger 💢 angry 😠
  anguished 😧 art 🎨 astonished 😲 car|red_car 🚗 barber 💈 bear 🐻 heartbeat 💓 beer 🍺 bento 🍱 bike 🚲
  birthday 🎂 busstop 🚏 date 📅 flags 🎏 cat2 🐈 joy_cat 😹 smirk_cat 😼 checkered_flag 🏁 city_sunset 🌆
  clapper 🎬 beers 🍻 mailbox_closed 📪 mailbox 📫 cocktail 🍸 confounded 😖 confused 😕 rice 🍚 cow2 🐄 x ❌
  cry 😢 truck 🚚 dart 🎯 disappointed 😞 dog2 🐕 flipper 🐬 loop ➿ bangbang ‼ email ✉ interrobang ⁉
  expressionless 😑 scream 😱 face_with_head__bandage 🤕 mask 😷 open_mouth 😮 joy 😂 no_mouth 😶 fax 📠
  fearful 😨 flag_for_japan JP flag_for_turkey TR golf ⛳ fleur__de__lis ⚜ flushed 😳 fries 🍟 frog 🐸
  hatched_chick 🐥 frowning 😦 fuelpump ⛽ gem 💎 star2 🌟 mortar_board 🎓 grimacing 😬 smile_cat 😸
  grinning 😀 heartpulse 💗 hamster 🐹 headphones 🎧 hear_no_evil 🙉 cupid 💘 gift_heart 💝 o ⭕ high_heel 👠
  bullettrain_side 🚄 bee 🐝 traffic_light 🚥 racehorse 🐎 coffee ☕ hotsprings ♨ hushed 😯
  jack_o_lantern 🎃 dolls 🎎 beginner 🔰 couplekiss 💏 kissing 😗 kissing_closed_eyes 😚
  kissing_smiling_eyes 😙 beetle 🐞 leaves 🍃 sob 😭 couple 👫 iphone 📱 money__mouth_face 🤑 moneybag 💰
  rice_scene 🎑 mouse2 🐁 lips 👄 office 🏢 book 📖 mailbox_with_no_mail 📭 mailbox_with_mail 📬 tada 🎉
  feet 🐾 pencil2 ✏ pensive 😔 persevere 😣 pig2 🐖 hankey|poop|shit 💩 bamboo 🎍 gun 🔫 stew 🍲
  pouting_cat 😾 rage 😡 rabbit2 🐇 apple 🍎 relieved 😌 sweet_potato 🍠 robot 🤖 rolled__up_newspaper 🗞
  boat ⛵ see_no_evil 🙈 stars 🌠 cake 🍰 sleeping 😴 sleepy 😪 innocent 😇 smiling_imp 😈 blush 😊 smirk 😏
  soccer ⚽ icecream 🍦 speak_no_evil 🙊 shell 🐚 ramen 🍜 partly_sunny ⛅ shirt|tshirt 👕 tea 🍵 tv 📺
  tiger2 🐅 tophat 🎩 train2 🚆 trident 🔱 unamused 😒 upside__down_face 🙃 vhs 📼 wc 🚾 ocean 🌊
  scream_cat 🙀 weary 😩 whale2 🐋 wheelchair ♿ white_check_mark ✅ star ⭐ wink 😉 wolf 🐺 worried 😟
  zipper__mouth_face 🤐
  "#

/-- The pictures that are called by the names of their characters, with low lines for blanks. -/
def ownNamed : String := "
  ♒♈♋♑🎄♊🏯🎎🏣🔰♌♎⛎♓♐🗽🦖♉🗼🦃♍🧮🩹🎟🚡✈🛫⏰⚗👾🚑🏈🏺⚓💢😠😧🐜🚛🎨😲⚛🛺🚗🥑🪓🍼🐤
  🚼🥓🦡🥯🛄🥖🩰🎈🗳☑🍌🪕🏦📊💈⚾🧺🦇🛁🔋🏖🐻💓🛏🍺🔔🛎🍱🧃🚲👙🧢🐦🎂🖤⬛◼✒▪🔲🌼🐡📘💙🐗💣🦴🔖
  📑📚🍾💐🏹🥣🎳🥊🧠🍞🧱🌉💼🩲🥦💔🧹🤎🐛🏗🌯🚌🚏👤👥🧈🦋🌵📷📸🏕🕯🍬🥫🛶🗃📇🗂🎠🎏🥕🐱😹😼⛓🪑🧀🏁
  🍒🌸🌰🐔🚸🐿🍫🥢⛪🎦🎪🏙🌆🎬🏛🍻🥂📋📕📪📫🌂☁🌩🌧🌨🤡🧥🍸🥥⚰☄🧭🎊😖😕🎛🏪🍚🍪🍳🛋💑🐮🦀💳🌙🦗
  🐊🥐❌🎌⚔👑😿😢🔮🥒🧁🥤🥌➰💱🍮🛃🥩🌀🍡🧏🌳🦌🚚🏬🏜🏝🖥🎯😞🤿🪔😵🐶🐬🚪➿‼🍩🐉🐲👗🤤🩸💧🦆🥟📀
  🦅🦻🔌🐘✉🌲⁉😑👁👀😱🤕😷🧐😮🙄😂🤒😶🏭🧆🍂👪📠😨♀🎡⛴🗄📁🎞📽🔥🧯🧨🚒🎆🐟⛳🦩🥿⚜💾🎴😳🥏🛸🌫
  🌁🦶👣🍴🍽🥠⛲🍀🦊🍟🍤🐸🐥😦⛽⚱🎲🧄⚙💎🧞👻🥛🌐🧤🌟🥅🐐🥽🦍🎓🍇🍏📗💚🥗😬😸😀💗🦮🎸🍔🔨⚒🛠🐹👜
  🤝🐣🎧🙉💟💘💝✔➗💲⭕➖✖➕🦔🚁🌿🌺👠🚄🥾🛕🦛🕳🍯🐝🚥🐴🏥☕🌭🌶♨🏨🏡🤗😯🍨⛸📥📨🎃👖🕹🕋🦘🔑⌨
  👘💋😗😚😙🪁🐨🥼🏷🐞🔷🔶✝🍃🥬📒🛅🗨🦵🍋🐆🎚🚈🖇🦁💄🦎🦙🦞🍭🧴😭🏩💌🧳🤥🧲♂👫🥭🕰🦽🍁🥋🍖🦾🦿🍈
  📝🚇🦠🎤🔬🎖🌌🚐📱📴🤑💰💸🐒🐵🚝🥮🎑🕌🦟🛥🛵🦼🛣🗻⛰🚠🚞🐭👄🎥🍄🎹🎵🎼📛🏞🤢🧿👔🤓😐📰🌃🚳⛔📵🚷
  📓📔🔩🐙🍢🏢🛢🗝🚘🚍🚔🚖🩱🧅📖📂📭📬📙🧡🦧☦🦦📤🦉🐂🦪📦📄📃📟🌴🥞🐼📎🦜〽🎉🛳🛂🐾☮🍑🦚🥜🍐🐧😔
  🎭😣🧫⛏🥧🐷🐽💩💊🤏🎍🍍🔫🛐🚓🐩🍿📯📮🍲🥔🍗😾😡📿🥨🦯🖨💜👛📌🐰🦝🏎📻🔘🚃🛤🌈🐏🐀🪒🪐🧾🍎😌🎗🚻
  💞🦏🎀🍙🍘🗯💍🍠🤖🚀🧻🗞🎢🤣🐓🌹🏵📍🏉🧷🦺⛵🥪🥻📡🦕🎷🧣🏫🦂📜💺🙈🌱🥘☘🦈🍧🛡⛩🚢🌠🛍🍰🩳🚿🦐🛹
  ⛷💀☠🦨🛷😴😪🙁🙂🎰🦥🛩🔹🔸😇😈😊😎😏🐌🐍🤧❄☃⛄⚽🧦🥎🍦🍝❇✨💖🙊💬🚤🕷🕸🐚🥄🧽🏅🐳🦑🏟☪✡🚉
  🍜🩺⏱📏🍓🎙🥙⛅🌞🌻🌅🌄🦸🦹🍣🚟🦢🕍💉👕🌮🥡🎋🍊🚕🍵📆🧸📞🔭📺⛺🧪🌡🤔💭🎫🐯⏲😫🧰🚽🍅👅🦷🎩🖲🚜
  🚊🚋📐🔱🚎🏆🍹🐠🎺🌷🥃🐢💕👬👭☂⛱☔😒🦄🙃🚦📳📹🎮📼🎻🌋🏐🧇🗑⌚🐃🚾🌊🍉〰🙀😩💒☸♿💮🤍✅⬜◻⭐
  ▫🔳🥀🎐🍷😉🐺🗺😟🔧🥱💛🪀☯🤐🧟🇦🇧🇨🇩🇪🇫🇬🇭🇮🇯🇰🇱🇲🇳🇴🇵🇶🇷🇸🇹🇺🇻🇼🇽🇾🇿🛬👟🏸🛀🚴☣
  ⏺◾⏹📉📈🔐🌪🗜🏏🗡💃🕶🏚💠⏸🕊🐪🌾✴✳⏏🏰🏤👓🏑🌛🎣🖼🌝🏌💂💇❣⎈⛑🔪⌛🏘🏒👿💁ℹ🏮👺👹🔵🌜↔
  ↩🔒🔏🖊🖍🖋🖌🕴👲👳👞🕎💽🚵🗿❎🌚🚫👴👵🕉⛹👱🙎👝🏍☢🖐🖖🖕🚣🏃🎽⚖🎒♏🐑🛌🕵🏔🔈🗣🗓🗒🚂🏄🏊🏓
  🖱⛈🚩🔀🏴🏳🏋☹◽🌥🌦🌤🌬👚👒
  "

def inPairs : List String → List (String × String)
  | name :: picture :: rest => (name, picture) :: inPairs rest
  | _ => []

def pictureWords : List String :=
  ((pictureTable.splitOn "\n").flatMap (·.splitOn " ")).filter fun w ↦ !w.isEmpty

def tones : List (String × Char) :=
  [("light", '🏻'), ("medium-light", '🏼'), ("medium", '🏽'),
    ("medium-dark", '🏾'), ("dark", '🏿')]

/-- A name and its picture, and those in all tones of skin if there are any. The tone comes after
the first character, in place of a selector. -/
def inTones (name : String) (picture : List Char) : List (String × List Char) :=
  if name.endsWith "~" then
    let plain := (name.dropEnd 1).toString
    let rest := (picture.drop 1).dropWhile (· == '\ufe0f')
    (plain, picture) :: tones.map fun t ↦
      (plain ++ "_" ++ t.1 ++ "_skin_tone", picture.take 1 ++ t.2 :: rest)
  else [(name, picture)]

def joiner : Char := '\u200d'

def unmarked (name : String) (picture : List Char) : List (String × List Char) :=
  let plain := (name.drop 1).toString
  match name.toList.head? with
  | some '^' => [(plain, picture), ("flag_for_" ++ plain, picture)]
  | some '&' => [("man_", '👨'), ("woman_", '👩')].flatMap fun (who, person) ↦
    inTones (who ++ plain) (person :: joiner :: picture)
  | some '*' => [("man_", '♂'), ("woman_", '♀')].flatMap fun (who, sign) ↦
    inTones (who ++ plain) (picture ++ [joiner, sign, '\ufe0f'])
  | _ => inTones name picture

def personName (c : Char) : String :=
  if c == '👨' then "_man" else if c == '👩' then "_woman" else if c == '👦' then "_boy" else "_girl"

def families : List (String × List Char) :=
  ["👨", "👩", "👨👨", "👨👩", "👩👩"].flatMap fun adults ↦
    ["👦", "👦👦", "👧", "👧👦", "👧👧"].map fun children ↦
      let persons := (adults ++ children).toList
      ("family" ++ String.join (persons.map personName), persons.intersperse joiner)

def flagLetter (c : Char) : Char :=
  Char.ofNat (0x1F1E6 + (c.toNat - 65))

def pictureOf (word : String) : List Char :=
  if word.toList.all Char.isUpper then word.toList.map flagLetter else word.toList

/-- The names in the table of pictures, of families and of the characters of flags, each with its
picture. -/
def namedPictures : List (String × List Char) :=
  ((inPairs pictureWords).flatMap fun (names, picture) ↦
    (names.splitOn "|").flatMap fun name ↦ unmarked name (pictureOf picture)) ++ families ++
  "abcdefghijklmnopqrstuvwxyz".toList.map fun c ↦
    ("regional_indicator_" ++ String.singleton c, [flagLetter c.toUpper])

def ownPicture? (name : List Char) : Option (List Char) := do
  if name.contains ' ' then none
  let code ← Text.CharacterName.find? (name.map fun c ↦ if c == '_' then ' ' else c)
  let c := Char.ofNat code
  if (Text.CharacterName.joined ownNamed).contains c then some [c] else none

def picture? (name : List Char) : Option (List Char) :=
  let name := Text.lowered (String.ofList name)
  ((namedPictures.find? (·.1 == name)).map (·.2)).orElse fun _ ↦ ownPicture? name.toList

def withoutEnding? (ending text : List Char) : Option (List Char) :=
  if ending.isSuffixOf text then some (text.take (text.length - ending.length)) else none

def codePicture? (code : List Char) : Option (List Char) :=
  match withoutEnding? "-emoji".toList code, withoutEnding? "-text".toList code with
  | some name, _ => (picture? name).map (· ++ ['\ufe0f'])
  | none, some name => (picture? name).map (· ++ ['\ufe0e'])
  | none, none => picture? code

def untilColon : List Char → Option (List Char)
  | [] => none
  | c :: rest =>
    if c == ':' then some []
    else if Text.isBlank c then none
    else (untilColon rest).map (c :: ·)

/-- Text with pictures in place of their codes. The second colon of a code starts no other one, also
where the code has no picture. -/
def withPictures (text : List Char) : List Char :=
  match text with
  | [] => []
  | c :: rest =>
    if c == ':' then
      match untilColon rest with
      | some code =>
        (codePicture? code).getD (':' :: code ++ [':']) ++
          withPictures (rest.drop (code.length + 1))
      | none => c :: withPictures rest
    else c :: withPictures rest
termination_by text.length
decreasing_by all_goals simp only [List.length_drop, List.length_cons]; omega

end TextProtocol.Console
